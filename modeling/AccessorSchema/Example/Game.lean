import AccessorSchema.Example.Value
import AccessorSchema.Schema.Emission

/-! # A game

A schema module with heroes, counters, generic data and a player, compiled like any other.  Objects
of its types are used through the generated accessors alone; a session is what they answer. -/

namespace AccessorSchema.Example

/-- The schema modules of the game. -/
def sources : List String :=
  ["mod heroes \x7b
      pub struct Wrap;
      impl Converter<i64> for Wrap \x7b\x7d " ++
    "#[data] pub struct Stat \x7b
      #[data(converter = Wrap)] _hp: i64,
      #[data(converter = Wrap)] _atk: i64 \x7d " ++
    "#[data] pub struct Hero \x7b _multipliers: Vec<Stat> \x7d " ++
    "#[data(base = \"Hero\")] pub struct NewHero \x7b _new_values: Vec<i64> \x7d \x7d",
   "mod counters \x7b " ++
    "#[data(mutable)] pub struct Counter \x7b
      value: i64,
      #[data(policy = \"read_only\")] id: u32,
      history: VecDeque<i64> \x7d " ++
    "#[data(base = \"Counter\")] pub struct FrozenCounter; \x7d",
   "mod generic \x7b " ++
    "#[data] pub struct GenericData<T> \x7b _value: T \x7d " ++
    "#[data(base = \"GenericData<i32>\")] pub struct IntData \x7b _extra: u8 \x7d \x7d",
   "mod players \x7b " ++
    "#[data(mutable)] pub struct Player \x7b
      #[property(setter)] level: u8,
      #[property(policy = \"read_only\")] name: String,
      _type: u8 \x7d \x7d"]

def schemaOf? (source : String) : Option Schema :=
  (TokenTree.read source).bind fun trees =>
    (Source.readModule trees).bind fun m => (Schema.ofModule [] m).toOption

/-- A compiled type with its accessors. -/
structure Class where
  type : DataType
  accessors : AccessorSet

namespace Class

def description (c : Class) : Description := .ofType c.type c.accessors

variable (c : Class)

/-- What the getter of an exposed name answers. -/
def get? (exposed : String) (s : Store Value) : Option Result :=
  (c.accessors.member? exposed false).bind (·.read? meaning s)

/-- What the getter answers as a list: the elements of a view, or the one datum. -/
def getItems (exposed : String) (s : Store Value) : List Datum :=
  match c.get? exposed s with
  | some (.single x) => [x]
  | some (.view v) => v.toList
  | none => []

def set (exposed : String) (v : Value) (s : Store Value) : Store Value :=
  match c.accessors.member? exposed true with
  | some a => a.write v s
  | none => s

end Class

def classes : List Class :=
  (sources.filterMap schemaOf?).flatMap fun schema =>
    schema.run.types.map fun d => ⟨d, .ofType d .skip⟩

def class? (name : String) : Option Class := classes.find? (·.type.ident.text == name)

/-- The object whose backing fields have the given values. -/
def object (fields : List (String × Value)) : Store Value := fun x =>
  (fields.lookup x.text).getD default

/-- What a row of a session shows: a datum, or the data of a collection. -/
inductive Cell where
  | single (x : Datum)
  | items (xs : List Datum)

def Class.cell (c : Class) (exposed : String) (s : Store Value) : Cell :=
  match c.get? exposed s with
  | some (.single x) => .single x
  | some (.view v) => .items v.toList
  | none => .items []

def Class.row (c : Class) (exposed : List String) (s : Store Value) : List Cell :=
  exposed.map (c.cell · s)

/-! ### Counters -/

inductive CounterStep where
  | setValue (n : Int64)
  /-- The value goes to the history and grows by one. -/
  | bump

def counterStep (c : Class) (s : Store Value) : CounterStep → Store Value
  | .setValue n => c.set "Value" (.number n.toInt) s
  | .bump =>
    let value := s (.plain "value")
    (s.set (.plain "history") ((s (.plain "history")).pushed value)).set (.plain "value") value.next

/-- The states an object goes through, the first one left out. -/
def states {σ : Type} (step : Store Value → σ → Store Value) (s : Store Value) :
    List σ → List (Store Value)
  | [] => []
  | x :: rest => step s x :: states step (step s x) rest

def counterNames : List String := ["Value", "Id", "History"]

/-- A row after each step, and one of the frozen copy. -/
def counterSession (id : UInt32) (steps : List CounterStep) : List (List Cell) :=
  match class? "Counter", class? "FrozenCounter" with
  | some counter, some frozen =>
    let start := object [("value", .number 0), ("id", .number id.toNat),
      ("history", .items (.ring (.ofList [])))]
    let later := states (counterStep counter) start steps
    later.map (counter.row counterNames) ++ [frozen.row counterNames (later.getLastD start)]
  | _, _ => []

/-! ### Heroes -/

def statRecord (hp atk : Int64) : Datum :=
  .record "Stat" [("_hp", hp.toInt), ("_atk", atk.toInt)]

/-- A stat as an object. -/
def statObject : Datum → Store Value
  | .record _ fields => object (fields.map fun f => (f.1, .number f.2))
  | _ => object []

/-- A row of each stat, one of the hero's own values, and the text of its stats. -/
def heroSession (stats : List (Int64 × Int64)) (values : List Int64) :
    List (List Cell) × String :=
  match class? "NewHero", class? "Stat" with
  | some hero, some stat =>
    let s := object [
      ("_multipliers", .items (.run (stats.map fun p => statRecord p.1 p.2))),
      ("_new_values", .items (.run (values.map fun n => .number n.toInt)))]
    let rows := (hero.getItems "Multipliers" s).map fun x =>
      stat.row ["Hp", "Atk"] (statObject x)
    let text := match hero.get? "Multipliers" s with
      | some (.view v) => v.shown Datum.shown
      | _ => ""
    (rows ++ [(hero.getItems "NewValues" s).map .single], text)
  | _, _ => ([], "")

/-! ### Players -/

inductive PlayerStep where
  | setLevel (n : UInt8)
  | setType (n : UInt8)

def playerStep (c : Class) (s : Store Value) : PlayerStep → Store Value
  | .setLevel n => c.set "Level" (.number n.toNat) s
  | .setType n => c.set "Type" (.number n.toNat) s

/-- A row after each step of a player who starts at level 1 with type 7. -/
def playerSession (name : String) (steps : List PlayerStep) : List (List Cell) :=
  match class? "Player" with
  | some player =>
    let start := object [("level", .number 1), ("name", .single (.text name)), ("_type", .number 7)]
    (states (playerStep player) start steps).map (player.row ["Level", "Name", "Type"])
  | none => []

/-! ### Generic data -/

def intDataSession (value : Int32) (extra : UInt8) : List (List Cell) :=
  match class? "IntData" with
  | some c =>
    let start := object [("_value", .number value.toInt), ("_extra", .number extra.toNat)]
    [c.row ["Value", "Extra"] start]
  | none => []

end AccessorSchema.Example
