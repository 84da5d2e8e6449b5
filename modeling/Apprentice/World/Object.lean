import Apprentice.Text.Blank
import Apprentice.Text.LowerCase

/-!
# Objects

Every object has the same seven attributes besides its id. Sizes and coordinates are 64-bit words,
because meanings compute with them and report overflow.
-/

namespace Apprentice

/-- Ids are given out in creation order, from one on. -/
abbrev ObjectId := Nat

/-- The written form of an id. -/
def idText (id : ObjectId) : String :=
  "#" ++ toString id

/-! ### Owners -/

/-- Who holds an object. `world` stands for nobody. -/
inductive Owner where
  | world
  | agent
  | user
  deriving DecidableEq, Repr

namespace Owner

def label : Owner → String
  | world => "world"
  | agent => "agent"
  | user => "user"

/-- Reads an owner, in any letter case and with blanks around it. -/
def ofLabel? (text : String) : Option Owner :=
  match String.ofList (Text.lower (Text.trim text.toList)) with
  | "world" | "nobody" => some world
  | "agent" | "self" => some agent
  | "user" => some user
  | _ => none

/-- The owner as the subject of an answer given by the agent. -/
def subject : Owner → String
  | world => "nobody"
  | agent => "I"
  | user => "you"

end Owner

/-! ### Objects and blueprints -/

/-- A cell of the grid. -/
structure Cell where
  x : Int64
  y : Int64
  deriving DecidableEq, Repr

structure Object where
  id : ObjectId
  name : String
  shape : String
  color : String
  size : Int64
  material : String
  /-- The cell of an object that lies in the open; an object in a container has none. -/
  position : Option Cell
  owner : Owner
  deriving DecidableEq, Repr

/-- One line with every attribute. -/
def Object.describe (o : Object) : String :=
  let place :=
    match o.position with
    | some cell => "at (" ++ toString cell.x ++ ", " ++ toString cell.y ++ ")"
    | none => "inside a container"
  o.name ++ " is a " ++ o.color ++ " " ++ o.shape ++ " " ++ idText o.id ++ " of size "
    ++ toString o.size ++ " made of " ++ o.material ++ ", " ++ place ++ ", held by "
    ++ o.owner.label

/-- The attributes asked of a new object. -/
structure Blueprint where
  name : Option String := none
  shape : Option String := none
  color : Option String := none
  size : Option Int64 := none
  material : Option String := none
  owner : Option Owner := none
  deriving DecidableEq, Repr

/-- The object of a blueprint: attributes that it leaves open take their defaults, and the name
takes `fallbackName`. -/
def Blueprint.build (blueprint : Blueprint) (id : ObjectId) (fallbackName : String)
    (position : Option Cell) : Object where
  id := id
  name := blueprint.name.getD fallbackName
  shape := blueprint.shape.getD "lump"
  color := blueprint.color.getD "grey"
  size := blueprint.size.getD 5
  material := blueprint.material.getD "unknown"
  position := position
  owner := blueprint.owner.getD .world

end Apprentice
