import AccessorSchema.Decl

/-! # Small declarations

Declarations given by their names alone, at no place of a source. -/

namespace AccessorSchema.Example

def nowhere {α : Type} (a : α) : Located α := ⟨a, default⟩

/-- The identifier that a text spells; the texts here all spell one. -/
def ident (text : String) : Ident := (Ident.ofText? text).getD default

/-- A private field whose type is a single word. -/
def field (name ty : String) : MemberDecl :=
  { ident := nowhere (ident name)
    ty := nowhere (.path (.mk false [.bare (ident ty)]))
    surface := .field .inherited
    converter := none
    policy := none
    decorations := []
    attrs := [] }

/-- A declaration without type parameters, the only fragment of its type. -/
def declare (name : String) (base : Option String) (mode : Mode) (members : List MemberDecl) :
    TypeDecl :=
  { ident := ident name
    generics := default
    base := base.map fun b => nowhere ⟨ident b, []⟩
    mode := mode
    fragment := 0
    members := members }

def hero : TypeDecl := declare "Hero" none .mutable [field "_name" "String"]

/-- A later fragment of the hero. -/
def heroTitle : TypeDecl :=
  { declare "Hero" none .mutable [field "_title" "String"] with fragment := 1 }

def wizard : TypeDecl := declare "Wizard" (some "Hero") .immutable [field "_mana" "u8"]

/-- A mutable heir of an immutable type. -/
def archmage : TypeDecl := declare "Archmage" (some "Wizard") .mutable [field "_staff" "Staff"]

def knight : TypeDecl := declare "Knight" (some "Hero") .mutable [field "_sword" "Sword"]

/-- A type with two fields whose accessors meet. -/
def counter : TypeDecl := declare "Counter" none .mutable [field "x" "i32", field "set_x" "i32"]

/-- A type that extends itself and exposes one name twice. -/
def ghost : TypeDecl := declare "Ghost" (some "Ghost") .mutable [field "sight" "u8", field "_sight" "u8"]

/-- A type with a field whose name would begin with a digit without its marker, and with one that no identifier
may begin with. -/
def row : TypeDecl := declare "Row" none .immutable [field "_१" "u8"]

/-- A type with a field of some other type `Gem`. -/
def relic : TypeDecl := declare "Relic" none .immutable [field "_gem" "Gem"]

/-- An heir whose parameter happens to be called `Gem` too. -/
def socket : TypeDecl :=
  { declare "Socket" (some "Relic") .immutable [] with
    generics := { params := [.type [] (.plain "Gem") [] []], trailing := false, whereClause := none } }

/-- An heir that gives the parameter an argument. -/
def ring : TypeDecl :=
  { declare "Ring" none .immutable [] with
    base := some (nowhere ⟨.plain "Socket", [.path (.ofIdent (.plain "u8"))]⟩) }

/-! ### Generic types -/

def plainType (name : String) : Ty := .path (.ofIdent (ident name))

def applied (name : String) (args : List Ty) : Ty :=
  .path (.mk false [.mk (ident name) (.angle false (args.map .type) false)])

/-- What a type has under a name, as in `T::Item`. -/
def itemOf (front name : String) : Ty :=
  .path (.mk false [.bare (ident front), .bare (ident name)])

def parameters (names : List String) : Generics :=
  { params := names.map fun x => .type [] (ident x) [] [], trailing := false, whereClause := none }

/-- A private field of any type. -/
def typed (name : String) (ty : Ty) : MemberDecl := { field name "" with ty := nowhere ty }

/-- A declaration with type parameters, and with arguments for those of its base. -/
def generic (name : String) (params : List String) (base : Option BaseRef) (members : List MemberDecl) :
    TypeDecl :=
  { declare name none .immutable members with
    generics := parameters params
    base := base.map nowhere }

/-- A mapping whose two types are up to the heirs. -/
def ledger : TypeDecl :=
  generic "Ledger" ["K", "V"] none [typed "_entries" (applied "HashMap" [plainType "K", plainType "V"])]

/-- An heir that keeps the names of both parameters but changes their places. -/
def register : TypeDecl :=
  generic "Register" ["K", "V"] (some ⟨.plain "Ledger", [plainType "V", applied "Vec" [plainType "K"]]⟩) []

def account : TypeDecl :=
  generic "Account" [] (some ⟨.plain "Register", [plainType "u8", plainType "Coin"]⟩) []

/-- A type with a field of what its parameter yields. -/
def source : TypeDecl := generic "Source" ["T"] none [typed "_item" (itemOf "T" "Item")]

def stream : TypeDecl := generic "Stream" [] (some ⟨.plain "Source", [plainType "Feed"]⟩) []

/-! ### Modules -/

/-- A module in which a chest declares the gold of its vault again and leaves it out of the schema;
`field` is how it does. -/
def chest (field : String) : String :=
  "mod town \x7b #[data] struct Vault \x7b gold: i32 \x7d #[data(base = \"Vault\")] struct Chest \x7b " ++
    "#[data(skip)] " ++ field ++ " \x7d \x7d"

/-- A module in which a purse inherits gold twice, since the chest in between declares it again; `fields` are
those of the purse. -/
def purse (fields : String) : String :=
  "mod town \x7b #[data] struct Vault \x7b gold: i32 \x7d #[data(base = \"Vault\")] struct Chest \x7b " ++
    "gold: i32 \x7d #[data(base = \"Chest\")] struct Purse \x7b " ++ fields ++ " \x7d \x7d"

/-- A module with the type of a row. -/
def rows : String := "mod town \x7b #[data] struct Row \x7b _१: u8 \x7d \x7d"

/-- A module with an alias and a vault, whose gold has the given attribute. -/
def vault (attr : String) : String :=
  "mod town \x7b type Coin = i32; #[data] struct Vault \x7b " ++ attr ++ " gold: Coin \x7d \x7d"

/-- A module with a vault that has the given attributes. -/
def treasury (attrs : String) : String :=
  "mod town \x7b " ++ attrs ++ " struct Vault \x7b gold: i32 \x7d \x7d"

/-- A module with something wrong in every place: options, base, form, fields. -/
def ruins : String :=
  "mod town \x7b #[data(base)] struct Vault \x7b #[data(lock)] gold: i32 \x7d struct Wall; " ++
    "#[data(base = \"(u8, u8)\")] struct Chest(u8); " ++
    "#[data] struct Purse \x7b #[property(open)] #[property] gold: i32, silver: u8, " ++
    "#[data(skip)] #[property] key: u8 \x7d \x7d"

/-- What is wrong with the ruins under the bare option `invalid`, in the order of the source. -/
def ruinsReport : List String :=
  ["Unexpected meta-item format `word` at invalid",
    "Unexpected meta-item format `word` at base",
    "unknown data option, expected: skip, converter, policy, accessor",
    "`base` must name a data type, e.g. `base = \"Hero\"`",
    "data types must have named fields",
    "unknown property option, expected: setter, storage, converter, policy",
    "Duplicate field `property`",
    "a member is either `#[data(..)]` or `#[property]`, not both",
    "`skip` cannot be combined with `#[property]`"]

end AccessorSchema.Example
