import DataMapper.Query.Condition
import DataMapper.Record.Mapping

/-!
# Query plans

A plan is a query as the list of steps that build it. A step that cannot be taken is reported and
leaves the query as it was; the steps after it are taken all the same.

## Main definitions

* `QueryStep.apply` — one step.
* `QueryPlan.start`, `QueryPlan.build` — the query before the first step and after the last.
-/

namespace DataMapper

open Sql Calendar

inductive QueryKind where
  | select | update | delete
  deriving DecidableEq, Repr

/-- What a query is about: a table, or the table of a record type. -/
inductive QueryTarget where
  | table (name : String)
  | record (type : RecordType)

mutual

inductive QueryStep where
  | tableAlias (text : String)
  | suffix (text : String)
  | separator (text : String)
  | parameterized (on : Bool)
  | inlineLiterals (on : Bool)
  | dialect (d : Dialect)
  | raw (conjunct : Bool) (text : String)
  | rawWith (conjunct : Bool) (text : String) (values : List Value)
  | compare (conjunct : Bool) (column : String) (value : Value) (negated : Bool)
  | within (conjunct : Bool) (column : String) (values : List Value) (negated : Bool)
  | withinQuery (conjunct : Bool) (column : String) (nested : QueryPlan) (negated : Bool)
  | between (conjunct : Bool) (column : String) (first last : Option Date)
  | search (conjunct : Bool) (phrase : String) (method : SearchMethod) (columns : List String)
      (foreign : List ForeignColumn)
  | join (left : Option String) (foreignKey : String) (referenced : QueryTarget)
      (tableAlias : Option String) (referencedKey : String) (type : JoinType)
  | joinRaw (text : String) (values : List Value)
  | columns (text : String)
  | orderBy (text : String)
  | limit (n : Nat)
  | offset (n : Nat)
  | assign (column : String) (value : Value)
  | assignRaw (text : String) (values : List Value)
  | allowUnfiltered (on : Bool)

inductive QueryPlan where
  | plan (kind : QueryKind) (target : QueryTarget) (options : Option BuildOptions)
      (steps : List QueryStep)

end

namespace QueryTarget

/-- The name of the table; a record type must be in order. -/
def tableName : QueryTarget → Except Error String
  | table name => .ok name
  | record type =>
    match Mapping.ofType type with
    | .ok m => .ok m.table
    | .error fault => .error (.mapping fault)

end QueryTarget

namespace Query

/-- A new query of a kind. -/
def start (kind : QueryKind) (table : String) (o : BuildOptions) : Query :=
  match kind with
  | .select => select table o
  | .update => update table o
  | .delete => delete table o

end Query

mutual

/-- The query after one step. Nested queries begin with the given options. -/
def QueryStep.apply (o : BuildOptions) (q : Query) : QueryStep → Except Error Query
  | .tableAlias text => .ok (q.withAlias text)
  | .suffix text => .ok (q.withSuffix text)
  | .separator text => .ok (q.withOptions fun b => { b with separator := text })
  | .parameterized on => .ok (q.withOptions fun b => { b with parameterized := on })
  | .inlineLiterals on => .ok (q.withOptions fun b => { b with inlineLiterals := on })
  | .dialect d => .ok (q.withOptions fun b => { b with dialect := d })
  | .raw conjunct text => .ok (q.raw conjunct text)
  | .rawWith conjunct text values => q.rawWith conjunct text values
  | .compare conjunct column value negated => .ok (q.compare conjunct column value negated)
  | .within conjunct column values negated => q.within conjunct column values negated
  | .withinQuery conjunct column nested negated =>
    (nested.build o).map fun sub => q.withinQuery conjunct column sub negated
  | .between conjunct column first last => .ok (q.between conjunct column first last)
  | .search conjunct phrase method columns foreign =>
    q.search conjunct phrase method columns foreign
  | .join left foreignKey referenced tableAlias referencedKey type =>
    referenced.tableName.map fun table => q.join left foreignKey table tableAlias referencedKey type
  | .joinRaw text values => q.joinRaw text values
  | .columns text => .ok (q.withColumns text)
  | .orderBy text => .ok (q.withOrder text)
  | .limit n => .ok (q.withLimit n)
  | .offset n => .ok (q.withOffset n)
  | .assign column value => .ok (q.assign column value)
  | .assignRaw text values => q.assignRaw text values
  | .allowUnfiltered on => .ok (q.allowUnfiltered on)

/-- The query after all steps that can be taken. -/
def QueryStep.applyAll (o : BuildOptions) (q : Query) : List QueryStep → Query
  | [] => q
  | s :: ss =>
    match s.apply o q with
    | .ok q => QueryStep.applyAll o q ss
    | .error _ => QueryStep.applyAll o q ss

/-- The query that the plan builds; `o` are the options of plans that have none of their own. -/
def QueryPlan.build (o : BuildOptions) : QueryPlan → Except Error Query
  | .plan kind target options steps =>
    match target.tableName with
    | .ok table => .ok (QueryStep.applyAll o (Query.start kind table (options.getD o)) steps)
    | .error e => .error e

end

namespace QueryPlan

def steps : QueryPlan → List QueryStep
  | .plan _ _ _ steps => steps

/-- The query before the first step. -/
def start (o : BuildOptions) : QueryPlan → Except Error Query
  | .plan kind target options _ => target.tableName.map fun t => .start kind t (options.getD o)

end QueryPlan

end DataMapper
