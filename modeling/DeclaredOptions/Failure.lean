import DeclaredOptions.Number.Digits
import DeclaredOptions.Text.Quoted

/-!
Contract: why an operation gives no result.

Owns: one value per cause, with the facts a caller may ask for, and the wording of each message.

Does not own: how a failure is shown on a console.
-/

namespace DeclaredOptions

inductive MemberContext where
  | positional
  | option
  deriving DecidableEq, Repr

def MemberContext.word : MemberContext → String
  | .positional => "positional"
  | .option => "option"

/-- The text of a documentation tag that is none of the forms expected there. -/
structure TagRefusal where
  text : String
  reason : String
  tag : Option String
  deriving DecidableEq, Repr

/-- Two symbols of one command that share an identifier. -/
inductive NameConflict where
  /-- Names used by both a positional and an option, in positional order. -/
  | shared (names : List String)
  /-- One identifier for two declarations, each described by its place. -/
  | ambiguous (name first second : String)
  deriving DecidableEq, Repr

inductive FileFault where
  | missing
  | directory
  | notDirectory
  | exists
  | nameTooLong
  deriving DecidableEq, Repr

/-- A value of the wrong kind where a mapping, a list or a number was expected. -/
inductive ValueFault where
  /-- A value without the look-up of a mapping; the kind of value is named. -/
  | noLookup (kind : String)
  /-- A value that cannot be listed. -/
  | notIterable (kind : String)
  /-- A value that cannot be a key. -/
  | unhashable (kind : String)
  /-- A value that cannot be read as a whole number. -/
  | notWhole (kind : String)
  /-- A text that is not a whole number. -/
  | notNumeral (shown : String)
  /-- A text with more decimal digits than a whole number is read from. -/
  | longNumeral (digits : Nat)
  /-- A whole number with more decimal digits than can be written. -/
  | longNumber
  /-- An infinite number where a whole one is needed. -/
  | infinite
  /-- A part of a moment that the calendar or the clock does not have. -/
  | outOfRange (what : String)
  /-- A NaN where a whole number is needed. -/
  | notANumber
  deriving DecidableEq, Repr

inductive Failure where
  /-- A declared type that is no scalar, list of scalars or enum. -/
  | unsupportedType (context : MemberContext) (typeName : String) (suggestions : List String)
  /-- A list whose elements are no scalars. -/
  | unsupportedElement (context : MemberContext) (elementName : String) (member : Option String)
  | tag (refusal : TagRefusal)
  | conflict (conflict : NameConflict)
  /-- A source with a syntax error, at no place in particular. -/
  | unreadableSource (path : String)
  /-- A fault of a source at a line and a column, both counted from one. -/
  | sourceFault (path : String) (line column : Nat) (what : String)
  /-- A path that the project already holds. -/
  | duplicateSource (path : String)
  | emptyDemandTags
  | configNotMapping
  | configQuote (shown : String)
  | cannotRead (path : String) (fault : FileFault)
  | cannotLoadFile (path : String) (fault : FileFault)
  | cannotWrite (path : String) (fault : FileFault)
  | cannotMake (path : String) (fault : FileFault)
  /-- A configuration file that is not well-formed. -/
  | malformedConfig (path : String)
  /-- Bytes of a file that are not UTF-8: the first bad byte, its offset and what is wrong. -/
  | notUtf8 (byte offset : Nat) (last : Nat) (reason : String)
  /-- A reference added to a frozen table. -/
  | frozen (name : String)
  /-- An option that has neither or both of a type and choices. -/
  | typeAndChoices (option : String)
  /-- An option that combines the list mark with choices. -/
  | listOfChoices (option : String)
  /-- A relative path asked of an empty one. -/
  | emptyPath
  /-- A value that chooses no tags. -/
  | unsupportedSelector (shown : String)
  | wrongValue (fault : ValueFault)
  /-- A file that the project does not hold. -/
  | noSuchFile
  | emptyIndentation
  | missingKey (key : String)
  deriving DecidableEq, Repr

def quotedName (name : String) : String := "'" ++ name ++ "'"

/-- A message followed by the names that may have been meant. -/
def withSuggestions (message : String) : List String → String
  | [] => message
  | [name] => message ++ ". Did you mean " ++ quotedName name ++ "?"
  | names =>
    message ++ ". Did you mean one of: " ++ Text.joined ", " (names.map quotedName) ++ "?"

/-- The wording of an unsupported list element; a missing or empty member is left out. -/
def elementMessage (context elementName : String) (member : Option String) : String :=
  let place :=
    match member with
    | some name => if name.isEmpty then context else context ++ " " ++ quotedName name
    | none => context
  "Unsupported array element type " ++ quotedName elementName ++ " in " ++ place

def typeMessage (context typeName : String) (suggestions : List String) : String :=
  withSuggestions ("Unsupported " ++ context ++ " type " ++ quotedName typeName) suggestions

/-- The wording of an unreadable tag text; a missing or empty tag is left out. -/
def TagRefusal.message (refusal : TagRefusal) : String :=
  let tag :=
    match refusal.tag with
    | some name => if name.isEmpty then "" else "@" ++ name ++ " "
    | none => ""
  "Cannot parse " ++ tag ++ "text " ++ quotedName refusal.text ++ ": " ++ refusal.reason

/-- The wording of names shared by positionals and options. -/
def sharedNamesMessage : List String → String
  | [name] => "Name " ++ quotedName name ++ " is used by both a positional and an option"
  | names =>
    "Names " ++ Text.joined ", " (names.map quotedName)
      ++ " are used by both positionals and options"

def ambiguousMessage (name first second : String) : String :=
  "Identifier " ++ quotedName name ++ " refers to two different declarations ("
    ++ first ++ " and " ++ second ++ "); the generated imports would be ambiguous"

def NameConflict.message : NameConflict → String
  | .shared names => sharedNamesMessage names
  | .ambiguous name first second => ambiguousMessage name first second

def NameConflict.names : NameConflict → List String
  | .shared names => names
  | .ambiguous name _ _ => [name]

def placedMessage (path : String) (line column : Int) (what : String) : String :=
  path ++ ":" ++ String.ofList (Number.wholeChars line) ++ ":"
    ++ String.ofList (Number.wholeChars column) ++ ": " ++ what

/-- The system's number and words for a refused file operation. -/
def FileFault.words : FileFault → String
  | .missing => "[Errno 2] No such file or directory"
  | .exists => "[Errno 17] File exists"
  | .notDirectory => "[Errno 20] Not a directory"
  | .directory => "[Errno 21] Is a directory"
  | .nameTooLong => "[Errno 36] File name too long"

def FileFault.message (fault : FileFault) (path : String) : String :=
  fault.words ++ ": " ++ Text.quoted path

/-- The wording for whole numbers that are too long, with what is known of the number. -/
def longMessage (what : String) : String :=
  "Exceeds the limit (" ++ Number.naturalText Number.maxDigits
    ++ " digits) for integer string conversion" ++ what
    ++ "; use sys.set_int_max_str_digits() to increase the limit"

def ValueFault.message : ValueFault → String
  | .noLookup kind => quotedName kind ++ " object has no attribute 'get'"
  | .notIterable kind => quotedName kind ++ " object is not iterable"
  | .unhashable kind => "unhashable type: " ++ quotedName kind
  | .notWhole kind =>
    "int() argument must be a string, a bytes-like object or a real number, not " ++ quotedName kind
  | .notNumeral shown =>
    "invalid literal for int() with base 10: " ++ String.ofList (shown.toList.take 200)
  | .longNumeral digits => longMessage (": value has " ++ Number.naturalText digits ++ " digits")
  | .longNumber => longMessage ""
  | .infinite => "cannot convert float infinity to integer"
  | .outOfRange what => what
  | .notANumber => "cannot convert float NaN to integer"

/-- The byte of a text that is not UTF-8, as two hexadecimal digits. -/
def byteText (byte : Nat) : String := String.ofList ('0' :: 'x' :: Text.hexDigits 2 byte)

def Failure.message : Failure → String
  | .unsupportedType context typeName suggestions =>
    typeMessage context.word typeName suggestions
  | .unsupportedElement context elementName member =>
    elementMessage context.word elementName member
  | .tag refusal => refusal.message
  | .conflict names => names.message
  | .unreadableSource path => path
  | .sourceFault path line column what => placedMessage path line column what
  | .duplicateSource path => "Source " ++ quotedName path ++ " is already part of the project"
  | .emptyDemandTags => "Config: 'resolve.demand-option-tags' must not be empty"
  | .configNotMapping => "Config: top level must be a mapping"
  | .configQuote shown => "Config: 'emit.quote' must be a single or double quote, got " ++ shown
  | .cannotRead path fault => "Failed to read from \"" ++ path ++ "\": " ++ fault.message path
  | .cannotLoadFile path fault =>
    "Failed to load YAML from \"" ++ path ++ "\": " ++ fault.message path
  | .cannotWrite path fault => "Failed to write to \"" ++ path ++ "\": " ++ fault.message path
  | .cannotMake path fault => fault.message path
  | .malformedConfig path => "Failed to load YAML from \"" ++ path ++ "\""
  | .notUtf8 byte offset last reason =>
    if last ≤ offset then
      "'utf-8' codec can't decode byte " ++ byteText byte ++ " in position "
        ++ Number.naturalText offset ++ ": " ++ reason
    else
      "'utf-8' codec can't decode bytes in position " ++ Number.naturalText offset ++ "-"
        ++ Number.naturalText last ++ ": " ++ reason
  | .frozen name => "Cannot add " ++ quotedName name ++ ": reference table is frozen"
  | .typeAndChoices option => "Option " ++ quotedName option ++ " needs exactly one of type/choices"
  | .listOfChoices option => "Option " ++ quotedName option ++ " cannot combine array with choices"
  | .emptyPath => "no path specified"
  | .unsupportedSelector shown => "Unsupported tag selector " ++ shown
  | .wrongValue fault => fault.message
  | .noSuchFile => "no such file"
  | .emptyIndentation => "pop from empty list"
  | .missingKey key => key

end DeclaredOptions
