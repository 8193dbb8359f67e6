import Scape.Wayland.Schema

/-!
# The generator

`wayland_protocol!` turns a protocol description into Rust items: an enum for
every enum, a struct with an opcode for every request and event. Names change
their case on the way and are passed to `syn::Ident::new`, which panics on
anything that does not look like an identifier, keywords excepted. A panic of the
macro is `none`.

The items are kept as data rather than tokens, since what matters of them is
which names they define, which they mention, and which numbers they carry.
-/

namespace Scape.Wayland

/-- The Unicode tables behind Rust's case conversions and its lexer. On ASCII
they are what one expects. -/
structure Unicode where
  /-- `char::to_uppercase` -/
  charUpper : Char → Text
  /-- `str::to_uppercase` -/
  upper : Text → Text
  /-- `str::to_lowercase` -/
  lower : Text → Text
  /-- a first character of identifiers, the underscore apart -/
  xidStart : Char → Bool
  /-- a later character of identifiers -/
  xidContinue : Char → Bool
  charUpper_ascii : ∀ c : Char, c.toNat < 128 → charUpper c = [c.toUpper]
  upper_ascii : ∀ s : Text, (∀ c ∈ s, c.toNat < 128) → upper s = s.map Char.toUpper
  lower_ascii : ∀ s : Text, (∀ c ∈ s, c.toNat < 128) → lower s = s.map Char.toLower
  xidStart_ascii : ∀ c : Char, c.toNat < 128 → xidStart c = c.isAlpha
  xidContinue_ascii : ∀ c : Char, c.toNat < 128 → xidContinue c = isWordChar c

def asciiUnicode : Unicode where
  charUpper := fun c => [c.toUpper]
  upper := fun s => s.map Char.toUpper
  lower := fun s => s.map Char.toLower
  xidStart := Char.isAlpha
  xidContinue := isWordChar
  charUpper_ascii := fun _ _ => rfl
  upper_ascii := fun _ _ => rfl
  lower_ascii := fun _ _ => rfl
  xidStart_ascii := fun _ _ => rfl
  xidContinue_ascii := fun _ _ => rfl

variable (U : Unicode)

/-- What `syn::Ident::new` accepts. -/
def isIdent : Text → Bool
  | [] => false
  | c :: cs => (U.xidStart c || c == '_') && cs.all U.xidContinue

def identNew (name : Text) : Option Text :=
  if isIdent U name then some name else none

def parseU32 (s : Text) : Option Nat :=
  let digits := match s with
    | '+' :: rest => rest
    | _ => s
  if digits = [] then none
  else Numeral.checked Numeral.decimalDigit 10 (2 ^ 32) 0 digits

def pascalWord : Text → Text
  | [] => []
  | first :: rest => U.charUpper first ++ U.lower rest

def snakeToPascalCase (s : Text) : Text := (s.splitOn '_').flatMap (pascalWord U)

/-! ## Generated items -/

inductive RustType where
  | i32
  | u32
  | string
  | objectId
  | named (ident : Text)
  | bytes
  | rawFd
  | unit
  | option (type : RustType)
  deriving DecidableEq, Repr

structure Field where
  name : Text
  type : RustType
  deriving DecidableEq, Repr

structure EnumItem where
  name : Text
  entries : List (Text × Nat)
  deriving DecidableEq, Repr

structure StructItem where
  name : Text
  fields : List Field
  opcode : Nat
  deriving DecidableEq, Repr

structure InterfaceCode where
  enums : List EnumItem
  requests : List StructItem
  events : List StructItem
  deriving DecidableEq, Repr

/-- The expansion: the alias `ObjectId`, and the items of every interface. -/
structure Code where
  interfaces : List InterfaceCode
  deriving DecidableEq, Repr

/-! ## The functions of the macro -/

def objectName (iface : Text) : Text := snakeToPascalCase U iface ++ "Object".toList

/-- The arms of `object` and `new_id`, which are the same. -/
def objectType : Option Text → Option RustType
  | some iface => (identNew U (objectName U iface)).map .named
  | none => some .objectId

def baseType (waylandType : Text) (interface : Option Text) : Option RustType :=
  if waylandType = "int".toList then some .i32
  else if waylandType = "uint".toList then some .u32
  else if waylandType = "fixed".toList then some .i32
  else if waylandType = "string".toList then some .string
  else if waylandType = "object".toList then objectType U interface
  else if waylandType = "new_id".toList then objectType U interface
  else if waylandType = "array".toList then some .bytes
  else if waylandType = "fd".toList then some .rawFd
  else some .unit

def rustTypeFromWaylandType (waylandType : Text) (interface : Option Text)
    (allowNull : Bool) : Option RustType := do
  let base ← baseType U waylandType interface
  return if allowNull then .option base else base

def generateField (arg : Arg) : Option Field := do
  let fieldName ← identNew U arg.name
  let fieldType ← rustTypeFromWaylandType U arg.argType arg.interface
    (arg.allowNull.getD false)
  return ⟨fieldName, fieldType⟩

/-- A request or an event, with its position among its like. -/
def generateStruct (suffix interfaceName : Text) (opcode : Nat) (message : Message) :
    Option StructItem := do
  let name ← identNew U (interfaceName ++ snakeToPascalCase U message.name ++ suffix)
  let fields ← message.args.mapM (generateField U)
  return ⟨name, fields, opcode % 2 ^ 16⟩

def generateRequest : Text → Nat → Message → Option StructItem :=
  generateStruct U "Request".toList

def generateEvent : Text → Nat → Message → Option StructItem :=
  generateStruct U "Event".toList

def generateEntry (entry : Entry) : Option (Text × Nat) := do
  let entryName ← identNew U (U.upper entry.name)
  return (entryName, (parseU32 entry.value).getD 0)

def generateEnum (interfaceName : Text) (enumDef : Enum) : Option EnumItem := do
  let enumName ← identNew U (interfaceName ++ snakeToPascalCase U enumDef.name)
  let entries ← enumDef.entry.mapM (generateEntry U)
  return ⟨enumName, entries⟩

def generateInterfaceCode (interface : Interface) : Option InterfaceCode := do
  let interfaceName ← identNew U (snakeToPascalCase U interface.name)
  let enums ← interface.enums.mapM (generateEnum U interfaceName)
  let requests ← interface.requests.zipIdx.mapM fun (request, opcode) =>
    generateRequest U interfaceName opcode request
  let events ← interface.events.zipIdx.mapM fun (event, opcode) =>
    generateEvent U interfaceName opcode event
  return ⟨enums, requests, events⟩

/-- The expansion of `wayland_protocol!`, once the file is parsed. -/
def expand (protocol : Protocol) : Option Code := do
  let interfaces ← protocol.interface.mapM (generateInterfaceCode U)
  return ⟨interfaces⟩

/-! ## What the generated code says -/

namespace Code

def enums (code : Code) : List EnumItem := code.interfaces.flatMap InterfaceCode.enums

def structs (code : Code) : List StructItem :=
  code.interfaces.flatMap fun i => i.requests ++ i.events

def fields (code : Code) : List Field := code.structs.flatMap StructItem.fields

def defined (code : Code) : List Text :=
  "ObjectId".toList :: code.enums.map EnumItem.name ++ code.structs.map StructItem.name

end Code

def RustType.name? : RustType → Option Text
  | .objectId => some "ObjectId".toList
  | .named ident => some ident
  | .option type => type.name?
  | _ => none

namespace Code

/-- Every identifier of the expansion that comes from the description. -/
def idents (code : Code) : List Text :=
  code.enums.flatMap (fun e => e.name :: e.entries.map Prod.fst) ++
    code.structs.map StructItem.name ++
    code.fields.flatMap (fun f => f.name :: f.type.name?.toList)

end Code

/-- The keywords of the 2021 edition, strict and reserved. -/
def keywords : List Text :=
  ["as", "break", "const", "continue", "crate", "else", "enum", "extern", "false", "fn",
   "for", "if", "impl", "in", "let", "loop", "match", "mod", "move", "mut", "pub", "ref",
   "return", "self", "Self", "static", "struct", "super", "trait", "true", "type",
   "unsafe", "use", "where", "while", "async", "await", "dyn", "abstract", "become",
   "box", "do", "final", "macro", "override", "priv", "typeof", "unsized", "virtual",
   "yield", "try"].map String.toList

def IsKeyword (name : Text) : Prop := name ∈ keywords

instance (name : Text) : Decidable (IsKeyword name) :=
  inferInstanceAs (Decidable (_ ∈ _))

/-- A legal identifier: it looks like one, is not reserved, and is not the
wildcard. -/
def LegalIdent (name : Text) : Prop :=
  isIdent U name = true ∧ ¬ IsKeyword name ∧ name ≠ ['_']

instance (name : Text) : Decidable (LegalIdent U name) :=
  inferInstanceAs (Decidable (_ ∧ _ ∧ _))

def Code.Legal (code : Code) : Prop := ∀ name ∈ code.idents, LegalIdent U name

/-- Every type a field names is built in or defined. -/
def Code.Closed (code : Code) : Prop :=
  ∀ field ∈ code.fields, ∀ name ∈ field.type.name?, name ∈ code.defined

instance (code : Code) : Decidable (code.Legal U) :=
  inferInstanceAs (Decidable (∀ _ ∈ _, _))

instance (code : Code) : Decidable code.Closed :=
  inferInstanceAs (Decidable (∀ _ ∈ _, ∀ _ ∈ _, _))

end Scape.Wayland
