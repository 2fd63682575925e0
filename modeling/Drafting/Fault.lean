import Drafting.Number.Reading
import Drafting.Value

/-!
# Faults

A request is refused for a cause. `Fault` names every cause together with what the message needs,
`Fault.category` says what sort of fault it is, and `Fault.message` is the only place that words
one. Faults of reading a number, of arithmetic and of access beyond a vector come from below the
rules of this library and are collected in `ArithmeticFault`.
-/

namespace Drafting

/-- The sorts of fault. -/
inductive FaultCategory where
  | indexOutOfRange
  | unknownProperty
  | unresolvedReference
  | unknownKind
  | invalidConstraint
  | overlappingBlock
  | value
  | type
  | key
  | overflow
  | index
  | access
  | linearAlgebra
deriving Repr, DecidableEq

/-- The name of a sort of fault. -/
def FaultCategory.name : FaultCategory → String
  | indexOutOfRange => "IndexOutOfRange"
  | unknownProperty => "UnknownProperty"
  | unresolvedReference => "UnresolvedReference"
  | unknownKind => "UnknownKind"
  | invalidConstraint => "InvalidConstraint"
  | overlappingBlock => "OverlappingBlock"
  | value => "ValueError"
  | type => "TypeError"
  | key => "KeyError"
  | overflow => "OverflowError"
  | index => "IndexError"
  | access => "AttributeError"
  | linearAlgebra => "LinAlgError"

/-- Causes below the rules of this library. -/
inductive ArithmeticFault where
  /-- A value that is no number stands where a real is needed. -/
  | notReal (value : Value)
  /-- A value that is no number stands where an integer is needed. -/
  | notInteger (value : Value)
  /-- A text that reads as no real. -/
  | unreadableReal (text : String)
  /-- A text that reads as no integer. -/
  | unreadableInteger (text : String)
  /-- A text that reads as an integer of more digits than are read. -/
  | integerTooLong (digits : Nat)
  /-- An integer beyond the largest real. -/
  | integerTooLarge
  /-- An integer beyond 64 bits where a tag is stored. -/
  | tagTooLarge
  /-- What is no number has no integer part. -/
  | noIntegerPart
  /-- Infinity has no integer part. -/
  | infiniteIntegerPart
  /-- A value that is no sequence stands where one is needed. -/
  | notSequence (value : Value)
  /-- A value without length stands where one is counted. -/
  | noLength (value : Value)
  /-- A value that cannot be a key is looked up. -/
  | notKey (value : Value)
  /-- What is looked up is not there. -/
  | missingKey
  /-- A value that is no view stands where one is needed. -/
  | notView (value : Value)
  /-- A view that is no point is asked for its coordinates. -/
  | notPoint (kind : GeometryKind)
  /-- A name that no operation has is asked for. -/
  | noOperation (name : Value)
  /-- An array that has not just one entry is asked whether it is true. -/
  | ambiguousTruth (count : Nat)
  /-- Rows that differ in length stand where an array is needed. -/
  | unevenRows
  /-- A row of numbers stands where a single one is stored. -/
  | rowInSlot
  /-- A record is to show a number, but a text stands there. -/
  | textInRecord
  /-- A value that is no number stands where numbers are multiplied. -/
  | notFactor (value : Value)
  /-- A function is applied outside its domain. -/
  | domain
  /-- The value of a function is beyond the largest real. -/
  | range
  /-- A vector ends before the slot that is read. -/
  | slotBeyondVector (slot : Int) (size : Nat)
  /-- A single number is read as a row of numbers. -/
  | bareReading
  /-- Two vectors that have to match differ in length. -/
  | lengthMismatch (left right : Nat)
  /-- A minimisation starts where a residual is not finite. -/
  | startNotFinite
  /-- A decomposition meets an entry that is not finite. -/
  | decomposition
  /-- The arguments of a request fit no parameter list. -/
  | arguments
  /-- A sequence that has to have a first item is empty. -/
  | emptySequence

/-- Why a property is refused although its name might exist. -/
inductive PropertyReason where
  /-- The place of the property depends on counts that are not given. -/
  | needsShape
  /-- A count is negative. -/
  | negativeCount (shape : SplineShape)
  /-- Poles and weights differ in number. -/
  | unevenWeights (shape : SplineShape)
  /-- The given counts are not those of the view. -/
  | otherShape (given : Value) (declared : Option SplineShape)
  /-- The place lies outside the block. -/
  | outsideBlock (offset : Int) (size : Nat)

/-- The causes for which a request is refused. -/
inductive Fault where
  | slotOutOfRange (slot : Int) (size : Nat)
  | foreignView (slot : Int) (size : Nat) (kind : GeometryKind)
  | slotNotInteger (value : Value)
  | valueNotFinite (x : Float)
  | valueCount (expected given : Nat)
  | nonFiniteValues
  | parameterNameInvalid (name : Value)
  | parameterDefined (name : String)
  | unknownParameter (name : Value)
  | unknownGeometryKind (value : Value)
  | overlappingBlock (slot : Int) (owner : Nat) (kind : GeometryKind)
  | missingGeometry (id : Value)
  | missingConstraint (id : Value)
  | notAPoint (id : Value) (kind : GeometryKind)
  | tooFewPoles (count : Nat)
  | weightCount (weights poles : Nat)
  | multiplicityCount (multiplicities knots : Nat)
  | degreeTooLow (degree : Value)
  | notAPair (items : List Value)
  | unknownProperty (kind : GeometryKind) (name : Value) (reason : Option PropertyReason)
  | operandNotGeometry (position : Nat) (value : Value)
  | operandTooEarly (position : Nat) (id : Int)
  | operandIsConstraint (position : Nat) (id : Int)
  | operandUnknownGeometry (position : Nat) (id : Int)
  | operandOfOtherKind (position : Nat) (accepted : List GeometryKind) (kind : GeometryKind)
  | operandBoolean (position : Nat)
  | operandNotFinite (position : Nat) (value : Value)
  | operandUnknownParameter (position : Nat) (name : Value)
  | operandNotScalar (position : Nat) (value : Value)
  | operandCount (kind : Value) (expected given : Nat)
  | unknownConstraintKind (name : Value)
  | kindNameInvalid (name : Value)
  | kindDefined (name : String)
  | kindWithoutRows (name : String) (size : Value)
  | unknownSlot (slot : Value) (name : String)
  | scaleNotReal (scale : Value)
  | scaleNotPositive (scale : Value)
  | rowCount (key : String) (expected given : Nat)
  | iterationsNotInteger (value : Value)
  | iterationsTooFew (count : Int)
  | optionNotReal (name : String) (value : Value)
  | optionNotPositive (name : String) (value : Value)
  | unknownOptions (names : List String)
  | unknownAlgorithm (value : Value)
  | unknownDebugMode (value : Value)
  | algorithmNotRequestable
  | unknownScene (name : Value) (scenes : List String)
  | arithmetic (cause : ArithmeticFault)

/-- The sort of a fault below the rules of this library. -/
def ArithmeticFault.category : ArithmeticFault → FaultCategory
  | notReal _ | notInteger _ | notSequence _ | noLength _ | notKey _ | arguments | textInRecord
  | notFactor _ | bareReading => .type
  | unreadableReal _ | unreadableInteger _ | integerTooLong _ | noIntegerPart | domain
  | lengthMismatch .. | startNotFinite | ambiguousTruth _ | unevenRows | rowInSlot => .value
  | integerTooLarge | tagTooLarge | infiniteIntegerPart | range => .overflow
  | slotBeyondVector .. | emptySequence => .index
  | missingKey => .key
  | notView _ | notPoint _ | noOperation _ => .access
  | decomposition => .linearAlgebra

/-- How much of a quoted text is shown when it reads as no integer. -/
def quotedLimit : Nat := 200

/-- The type of a value as it is named where no key is taken. -/
def keyTypeName : Value → String
  | .array .. => "numpy.ndarray"
  | value => value.typeName

/-- The wording of a fault below the rules of this library. -/
def ArithmeticFault.message : ArithmeticFault → String
  | notReal (.array ..) | notInteger (.array ..) =>
    "only 0-dimensional arrays can be converted to Python scalars"
  | notReal value =>
    "float() argument must be a string or a real number, not '" ++ value.typeName ++ "'"
  | notInteger value =>
    "int() argument must be a string, a bytes-like object or a real number, not '" ++
      value.typeName ++ "'"
  | unreadableReal text => "could not convert string to float: " ++ quoted text
  | unreadableInteger text =>
    "invalid literal for int() with base 10: " ++
      String.ofList ((quoted text).toList.take quotedLimit)
  | integerTooLong digits =>
    "Exceeds the limit (" ++ decimalText integerDigitLimit ++
      " digits) for integer string conversion: value has " ++ decimalText digits ++
      " digits; use sys.set_int_max_str_digits() to increase the limit"
  | integerTooLarge => "int too large to convert to float"
  | tagTooLarge => "Python int too large to convert to C long"
  | noIntegerPart => "cannot convert float NaN to integer"
  | infiniteIntegerPart => "cannot convert float infinity to integer"
  | notSequence value => "'" ++ value.typeName ++ "' object is not iterable"
  | noLength value => "object of type '" ++ value.typeName ++ "' has no len()"
  | notKey value => "unhashable type: '" ++ keyTypeName value ++ "'"
  | missingKey => "0"
  | notView value => "'" ++ value.typeName ++ "' object has no attribute 'indices'"
  | notPoint kind => kind.name ++ " has no coordinates"
  | noOperation name => "no operation " ++ name.written
  | ambiguousTruth count =>
    "The truth value of an array with " ++ decimalText count ++ " elements is ambiguous"
  | unevenRows | rowInSlot => "setting an array element with a sequence."
  | textInRecord => "%d format: a real number is required, not str"
  | notFactor value => "can't multiply by a value of type '" ++ value.typeName ++ "'"
  | domain => "math domain error"
  | range => "math range error"
  | slotBeyondVector slot size =>
    "index " ++ integerText slot ++ " is out of bounds for axis 0 with size " ++ decimalText size
  | bareReading => "'float' object is not subscriptable"
  | lengthMismatch left right =>
    "shape mismatch: value array of shape " ++ shapeText [left] ++
      " could not be broadcast to indexing result of shape " ++ shapeText [right]
  | startNotFinite => "Residuals are not finite in the initial point."
  | decomposition => "SVD did not converge in Linear Least Squares"
  | arguments => "arguments do not match the parameters"
  | emptySequence => "list index out of range"

namespace PropertyReason

/-- The wording of a reason. -/
def message : PropertyReason → String
  | needsShape => "offset needs the instance shape"
  | negativeCount shape => "inconsistent shape " ++ shape.text
  | unevenWeights shape =>
    "inconsistent shape " ++ shape.text ++ ": one weight per control point"
  | otherShape given declared =>
    "shape " ++ given.shown ++ " does not match the instance shape " ++ optionalShapeText declared
  | outsideBlock offset size =>
    "offset " ++ integerText offset ++ " outside block of " ++ decimalText size ++ " parameter(s)"

end PropertyReason

/-- A kind of geometry between angle brackets. -/
def GeometryKind.bracketed (kind : GeometryKind) : String := "<" ++ kind.name ++ ">"

namespace Fault

/-- The sort of a fault. -/
def category : Fault → FaultCategory
  | slotOutOfRange .. | foreignView .. => .indexOutOfRange
  | unknownProperty .. => .unknownProperty
  | unknownParameter _ | missingGeometry _ | missingConstraint _ | operandTooEarly ..
  | operandIsConstraint .. | operandUnknownGeometry .. | operandUnknownParameter .. =>
    .unresolvedReference
  | unknownGeometryKind _ | unknownConstraintKind _ | unknownSlot .. | unknownAlgorithm _
  | unknownDebugMode _ | algorithmNotRequestable => .unknownKind
  | operandNotGeometry .. | operandOfOtherKind .. | operandBoolean _ | operandNotFinite ..
  | operandNotScalar .. | operandCount .. | kindNameInvalid _ | kindDefined _
  | kindWithoutRows .. | scaleNotReal _ | scaleNotPositive _ => .invalidConstraint
  | overlappingBlock .. => .overlappingBlock
  | slotNotInteger _ | notAPoint .. => .type
  | unknownScene .. => .key
  | valueNotFinite _ | valueCount .. | nonFiniteValues | parameterNameInvalid _
  | parameterDefined _ | tooFewPoles _ | weightCount .. | multiplicityCount .. | degreeTooLow _
  | notAPair _ | rowCount .. | iterationsNotInteger _ | iterationsTooFew _ | optionNotReal ..
  | optionNotPositive .. | unknownOptions _ => .value
  | arithmetic cause => cause.category

/-- The choice of names and codes that a selector of algorithms accepts. -/
def algorithmChoice : String :=
  " (expected one of: dogleg, levenberg_marquardt, bfgs, sqp; " ++
    "or code 0=bfgs, 1=levenberg_marquardt, 2=dogleg)"

/-- The choice of names and codes that a selector of debug modes accepts. -/
def debugModeChoice : String :=
  " (expected one of: none, minimal, iteration; or code 0=none, 1=minimal, 2=iteration)"

/-- The words that name an operand. -/
def operandText (position : Nat) : String := "operand " ++ decimalText position

/-- The words that open a message about a slot. -/
def slotText (slot : Int) (size : Nat) : String :=
  "parameter index " ++ integerText slot ++ " out of range (store size " ++ decimalText size ++ ")"

/-- The wording of a fault. -/
def message : Fault → String
  | slotOutOfRange slot size => slotText slot size
  | foreignView slot size kind =>
    slotText slot size ++ ": " ++ kind.bracketed ++
      " view belongs to another or already cleared store"
  | slotNotInteger value => "parameter index must be an int, got " ++ value.typeName
  | valueNotFinite x => "parameter value must be finite, got " ++ NumberStyle.message.text x
  | valueCount expected given =>
    "expected " ++ decimalText expected ++ " values, got " ++ decimalText given
  | nonFiniteValues => "refusing to store non-finite parameter values"
  | parameterNameInvalid name =>
    "parameter name must be a non-empty string, got " ++ name.written
  | parameterDefined name => "parameter " ++ quoted name ++ " is already defined"
  | unknownParameter name => "unknown parameter " ++ name.written
  | unknownGeometryKind value =>
    "unknown geometry kind " ++ value.written ++ " (expected one of: " ++
      ", ".intercalate (GeometryKind.all.map GeometryKind.name) ++ ")"
  | overlappingBlock slot owner kind =>
    "parameter " ++ integerText slot ++ " already belongs to geometry #" ++ decimalText owner ++
      " " ++ kind.bracketed
  | missingGeometry id => "geometry #" ++ id.shown ++ " does not exist"
  | missingConstraint id => "constraint #" ++ id.shown ++ " does not exist"
  | notAPoint id kind =>
    "geometry #" ++ id.shown ++ " is " ++ kind.bracketed ++ ", expected a point"
  | tooFewPoles count =>
    "bspline needs at least 2 control points, got " ++ decimalText count
  | weightCount weights poles =>
    "bspline needs one weight per control point (" ++ decimalText weights ++ " weights, " ++
      decimalText poles ++ " control points)"
  | multiplicityCount multiplicities knots =>
    "bspline needs one multiplicity per knot (" ++ decimalText multiplicities ++ " vs " ++
      decimalText knots ++ ")"
  | degreeTooLow degree => "bspline degree must be >= 1, got " ++ degree.shown
  | notAPair items =>
    "bspline coordinates must be (x, y) pairs, got " ++ (Value.tuple items).written
  | unknownProperty kind name reason =>
    "Unknown property " ++ name.written ++ " for primitive " ++ kind.bracketed ++
      (match reason with
        | some reason => ": " ++ reason.message
        | none => "")
  | operandNotGeometry position value =>
    operandText position ++ " must be a geometry id or view, got " ++ value.written
  | operandTooEarly position id =>
    operandText position ++ " references #" ++ integerText id ++ ", which is not constructed yet"
  | operandIsConstraint position id =>
    operandText position ++ " references constraint #" ++ integerText id ++ ", not a geometry"
  | operandUnknownGeometry position id =>
    operandText position ++ " references unknown geometry #" ++ integerText id
  | operandOfOtherKind position accepted kind =>
    operandText position ++ " must be one of (" ++
      ", ".intercalate (accepted.map GeometryKind.name) ++ "), got " ++ kind.bracketed
  | operandBoolean position => operandText position ++ ": booleans are not scalar values"
  | operandNotFinite position value =>
    operandText position ++ ": literal must be finite, got " ++ value.written
  | operandUnknownParameter position name =>
    operandText position ++ ": unknown parameter " ++ name.written
  | operandNotScalar position value =>
    operandText position ++ ": cannot use " ++ value.written ++ " as a scalar"
  | operandCount kind expected given =>
    "constraint " ++ kind.written ++ " takes " ++ decimalText expected ++ " operand(s), got " ++
      decimalText given
  | unknownConstraintKind name => "unknown constraint kind " ++ name.written
  | kindNameInvalid name =>
    "constraint kind name must be a non-empty string, got " ++ name.written
  | kindDefined name => "constraint kind " ++ quoted name ++ " is already defined"
  | kindWithoutRows name size =>
    "constraint kind " ++ quoted name ++ " needs at least one residual row, got " ++ size.shown
  | unknownSlot slot name =>
    "unknown operand slot " ++ slot.written ++ " for constraint kind " ++ quoted name
  | scaleNotReal scale => "scale must be a real number, got " ++ scale.written
  | scaleNotPositive scale => "scale must be positive and finite, got " ++ scale.written
  | rowCount key expected given =>
    "Residual " ++ key ++ " expected size " ++ decimalText expected ++ ", got " ++
      decimalText given
  | iterationsNotInteger value => "max_iterations must be an integer, got " ++ value.written
  | iterationsTooFew count => "max_iterations must be >= 1, got " ++ integerText count
  | optionNotReal name value => name ++ " must be a real number, got " ++ value.written
  | optionNotPositive name value => name ++ " must be positive and finite, got " ++ value.written
  | unknownOptions names => "unknown solver option(s): " ++ ", ".intercalate names
  | unknownAlgorithm value => "invalid algorithm " ++ value.written ++ algorithmChoice
  | unknownDebugMode value => "invalid debug mode " ++ value.written ++ debugModeChoice
  | algorithmNotRequestable =>
    "algorithm 'sqp' cannot be requested; it is selected when temporary constraints exist"
  | unknownScene name scenes =>
    "unknown demo scene " ++ name.written ++ "; choose from " ++ ", ".intercalate scenes
  | arithmetic cause => cause.message

/-- Whether the wording is a rule of this library. -/
def hasOwnText : Fault → Bool
  | arithmetic _ => false
  | _ => true

end Fault

end Drafting
