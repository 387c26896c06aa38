/-
Errors.

An error has a category and a cause. The category decides how a request is answered; the cause says what
happened and is put into words by one function, `Error.message`. Where a reader of another language (of
patterns, JSON or geometries) refuses a text, its own words are withheld. A request that cannot be answered
at all, because a text was cut inside a character, is a `Failure` of its own kind and no error.
-/
import EntityHistory.Query.Term
import EntityHistory.Time.Query
import EntityHistory.Time.Reading

namespace EntityHistory

/-- What stands for the words of another reader. -/
def withheld : String := "<detail>"

/-- Why the time part of a request is refused. -/
inductive TimeFault where
  | unknownRelation (name : String)
  | bounds (fault : TimeBoundsFault)
  /-- A filtered query needs a bounded time. -/
  | filterWithoutTime
  | stated (text : String)
deriving DecidableEq, Repr

def TimeBoundsFault.message : TimeBoundsFault → String
  | .endBeforeTime => "endTime must not precede time"
  | .betweenNeedsBoth => "between requires both time and endTime"
  | .needsOneTime relation => s!"{relation.name} requires time and no endTime"
  | .timesWithoutRelation => "time and endTime require timerel"

def TimeFault.message : TimeFault → String
  | .unknownRelation name => s!"unknown timerel '{name}'"
  | .bounds fault => fault.message
  | .filterWithoutTime => "filtered temporal queries require timerel and time"
  | .stated text => text

/-- Why an operator does not go with a value or a target. -/
inductive OperatorFault where
  | needsText
  | onlyEquality
  | needsTextForField
  | notOnCompound
deriving DecidableEq, Repr

def OperatorFault.message : OperatorFault → String
  | .needsText => "requires a quoted string"
  | .onlyEquality => "only supports == and !="
  | .needsTextForField => "requires a text value for this field"
  | .notOnCompound => "is not supported on compound members"

/-- Why a query is refused. -/
inductive QueryFault where
  | emptyTerm
  | unbalanced (text : String)
  | unterminated (text : String)
  | noOperator (text : String)
  | invalidPath (path : String)
  | invalidCompoundPath (brackets : String)
  | missingValue
  | unrecognized (text : String)
  | mixedList (text : String)
  | invalidRange (text : String)
  | mismatch (operator : Operator) (fault : OperatorFault) (kind : ValueKind)
  | invalidPattern (pattern : String)
  | invalidIdPattern (pattern : String)
  | unsupportedTimeProperty (name : String)
  | notATimestamp (parameter text : String) (fault : TimestampFault)
  | invalidNearModifier (modifier : String)
  | invalidDistance (text : String)
  | unknownNearModifier (name : String)
  | nearNeedsOneDistance
  | unsupportedGeoRelation (name : String)
  | geoRelationWithModifiers (text : String)
  | coordinatesNotJson
  | invalidGeometry (type : String)
  | unsupportedGeometry
  | incompleteGeoQuery
  | pageSize (most : Nat)
  | stated (text : String)
deriving DecidableEq, Repr

def QueryFault.message : QueryFault → String
  | .emptyTerm => "empty query term"
  | .unbalanced text => s!"unbalanced parenthesis in '{text}'"
  | .unterminated text => s!"unterminated string in '{text}'"
  | .noOperator text => s!"no comparison operator in '{text}'"
  | .invalidPath path => s!"invalid attribute path '{path}'"
  | .invalidCompoundPath brackets => s!"invalid compound path '{brackets}'"
  | .missingValue => "missing value in query term"
  | .unrecognized text => s!"unrecognized value '{text}'"
  | .mixedList text => s!"list '{text}' mixes value types"
  | .invalidRange text => s!"invalid range '{text}'"
  | .mismatch operator fault kind => s!"operator {operator.symbol} {fault.message} ({kind.name} value)"
  | .invalidPattern pattern => s!"invalid pattern '{pattern}': {withheld}"
  | .invalidIdPattern pattern => s!"invalid idPattern '{pattern}': {withheld}"
  | .unsupportedTimeProperty name => s!"unsupported timeproperty '{name}'"
  | .notATimestamp parameter text fault => s!"{parameter} '{text}' is not a date-time: {fault.message}"
  | .invalidNearModifier modifier => s!"invalid near modifier '{modifier}'"
  | .invalidDistance text => s!"invalid distance '{text}'"
  | .unknownNearModifier name => s!"unknown near modifier '{name}'"
  | .nearNeedsOneDistance => "near requires exactly one of maxDistance or minDistance"
  | .unsupportedGeoRelation name => s!"unsupported georel '{name}'"
  | .geoRelationWithModifiers text => s!"georel '{text}' takes no modifiers"
  | .coordinatesNotJson => s!"coordinates are not valid JSON: {withheld}"
  | .invalidGeometry type => s!"invalid {type} geometry: {withheld}"
  | .unsupportedGeometry =>
    "geometry must be a Point, LineString, Polygon, MultiLineString or MultiPolygon"
  | .incompleteGeoQuery => "georel, geometry and coordinates must be provided together"
  | .pageSize most => s!"pageSize must be between 1 and {most}"
  | .stated text => text

/-- Why a name is not expanded. -/
inductive ExpansionFault where
  | unknownName (name : String)
  | stated (text : String)
deriving DecidableEq, Repr

def ExpansionFault.message : ExpansionFault → String
  | .unknownName name => s!"unable to expand '{name}' with the provided contexts"
  | .stated text => text

/-- Why a context document cannot be used. -/
inductive ContextFault where
  | noContextMember (url : String)
  /-- An entry that is neither an object nor a reference; `entry` is its JSON text. -/
  | unsupportedEntry (url entry : String)
  | notAvailable (url : String)
  | importsTooDeep (url : String)
  | stated (text : String)
deriving DecidableEq, Repr

def ContextFault.message : ContextFault → String
  | .noContextMember url => s!"{url} has no @context member"
  | .unsupportedEntry url entry => s!"{url} has an unsupported @context entry: {entry}"
  | .notAvailable url => s!"{url} is not available"
  | .importsTooDeep url => s!"{url}: context imports nested too deeply"
  | .stated text => text

/-- Why stored data cannot be read. -/
inductive RecordFault where
  | unknownMode (name : String)
  | column (name : String)
  | geometry
  | stated (text : String)
deriving DecidableEq, Repr

def RecordFault.message : RecordFault → String
  | .unknownMode name => s!"unknown operation mode: {name}"
  | .column name => s!"column '{name}': {withheld}"
  | .geometry => withheld
  | .stated text => text

/-- What is not found. -/
inductive Missing where
  | entity (id : String)
  | instances (id : String)
  | stated (text : String)
deriving DecidableEq, Repr

def Missing.message : Missing → String
  | .entity id => s!"entity {id}"
  | .instances id => s!"entity {id} has no matching instances"
  | .stated text => text

/-- Why the database gives no answer. -/
inductive DatabaseFault where
  | failed (text : String)
  /-- More statements are run than there are answers. -/
  | noAnswerLeft
deriving DecidableEq, Repr

def DatabaseFault.message : DatabaseFault → String
  | .failed text => s!"Custom Error: {text}"
  | .noAnswerLeft => "Query Error: `query_results` buffer is empty."

/-- An error: its category and its cause. -/
inductive Error where
  | invalidTimeRelation (cause : TimeFault)
  | invalidQuery (cause : QueryFault)
  | expansionFailure (cause : ExpansionFault)
  | contextUnavailable (cause : ContextFault)
  | unreadableRecord (cause : RecordFault)
  | notFound (cause : Missing)
  | database (cause : DatabaseFault)
  | configuration (text : String)
  | internal (text : String)
deriving DecidableEq, Repr

/-- The words of an error: the category and then the cause. -/
def Error.message : Error → String
  | .invalidTimeRelation cause => "无效的时间关系: " ++ cause.message
  | .invalidQuery cause => "无效的查询: " ++ cause.message
  | .expansionFailure cause => "属性展开失败: " ++ cause.message
  | .contextUnavailable cause => "上下文获取失败: " ++ cause.message
  | .unreadableRecord cause => "持久化数据读取失败: " ++ cause.message
  | .notFound cause => "资源不存在: " ++ cause.message
  | .database cause => "数据库错误: " ++ cause.message
  | .configuration text => "配置错误: " ++ text
  | .internal text => "内部错误: " ++ text

/-- How a request can end without a result. -/
inductive Failure where
  /-- With an error that the caller is told. -/
  | reported (e : Error)
  /-- Without an answer: a text was cut inside a character. -/
  | cutInsideCharacter
deriving DecidableEq, Repr

/-- The outcome of a computation that may end in a failure. -/
abbrev Outcome := Except Failure

/-! A part of the library that can fail in one way only has that kind of fault as its errors. Where it is
used among others, the fault becomes the cause of an error of its category. -/

instance : MonadLift (Except TimeBoundsFault) (Except Error) :=
  ⟨fun r => r.mapError fun fault => .invalidTimeRelation (.bounds fault)⟩

instance : MonadLift (Except QueryFault) (Except Error) := ⟨fun r => r.mapError .invalidQuery⟩

instance : MonadLift (Except ExpansionFault) (Except Error) := ⟨fun r => r.mapError .expansionFailure⟩

instance : MonadLift (Except ContextFault) (Except Error) := ⟨fun r => r.mapError .contextUnavailable⟩

instance : MonadLift (Except RecordFault) (Except Error) := ⟨fun r => r.mapError .unreadableRecord⟩

instance : MonadLift (Except Error) Outcome := ⟨fun r => r.mapError .reported⟩

/-- Refuses a query. -/
def refuse {α : Type} (fault : QueryFault) : Outcome α := throw (.reported (.invalidQuery fault))

end EntityHistory
