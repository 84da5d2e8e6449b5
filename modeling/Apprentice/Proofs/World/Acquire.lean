import Apprentice.Proofs.World.Names
import Apprentice.Proofs.World.Run

/-!
# Handing over, lifting out and adding

The three changes that bring an object to somebody: it is made, it is lifted out of its container,
it passes to its new owner. Each of them is carried out if nothing is in its way, writes one event,
and leaves all other objects as and where they are.
-/

namespace Apprentice.World

variable {w next last : World} {o : Object} {id container : ObjectId} {cell : Cell} {owner : Owner}
  {blueprint : Blueprint} {name : String}

/-- A world in which an object has passed to an owner. -/
def handOver (w : World) (o : Object) (owner : Owner) : World :=
  (w.modify o.id fun o => { o with owner := owner }).log o.id o.name (.transfer o.owner owner)

/-- A world in which an object has come out of its container, into a cell. -/
def liftOut (w : World) (o : Object) (container : ObjectId) (cell : Cell) : World :=
  ((w.unlink o.id).modify o.id (moveTo (some cell))).log o.id o.name
    (.takeOut container (w.nameOf container))

def withNew (w : World) (blueprint : Blueprint) (cell : Cell) : World :=
  (w.withObject (w.newObject blueprint cell)).log w.nextId (w.newObject blueprint cell).name .create

/-! ### What is in the way of a change -/

theorem setOwner_of_find? (hfind : w.find? o.id = some o) (howner : o.owner ≠ owner) :
    w.setOwner o.id owner = .ok (w.handOver o owner) := by
  rw [setOwner, hfind]
  exact if_neg howner

theorem nameOf_of_find? (hfind : w.find? id = some o) : w.nameOf id = o.name := by
  rw [nameOf, hfind]

theorem takeOut_of_containerOf? (hfind : w.find? o.id = some o)
    (hcontainer : w.containerOf? o.id = some container) (hfree : w.freeCell? = some cell) :
    w.takeOut o.id = .ok (container, w.liftOut o container cell) := by
  have hnames : ∀ x, ((w.unlink o.id).modify o.id (moveTo (some cell))).nameOf x = w.nameOf x :=
    fun x => nameOf_modify_moveTo (w.unlink o.id) o.id (some cell) x
  rw [takeOut, if_neg (by simp [contains_of_find? hfind]), hcontainer, hfree]
  dsimp only
  rw [hnames, hnames, nameOf_of_find? hfind]
  rfl

theorem takeOut_of_full (hfind : w.find? o.id = some o)
    (hcontainer : w.containerOf? o.id = some container) (hfull : w.freeCell? = none) :
    w.takeOut o.id = .error w.fullError := by
  rw [takeOut, if_neg (by simp [contains_of_find? hfind]), hcontainer, hfull]

theorem create_of_unused (hname : blueprint.name = some name) (hunused : w.named? name = none)
    (hfree : w.freeCell? = some cell) :
    w.create blueprint = .ok (w.nextId, w.withNew blueprint cell) := by
  have hpasses : (blueprint.name.filter fun name => (w.named? name).isSome) = none := by
    rw [hname, Option.filter_eq_none_iff]
    rintro _ ⟨⟩
    simp [hunused]
  rw [create, hpasses, hfree]
  rfl

/-! ### Soundness -/

theorem Sound.liftOut (hsound : w.Sound) (hfind : w.find? o.id = some o)
    (hcontainer : w.containerOf? o.id = some container) (hfree : w.freeCell? = some cell) :
    (w.liftOut o container cell).Sound :=
  hsound.takeOut (takeOut_of_containerOf? hfind hcontainer hfree)

theorem Sound.withNew (hsound : w.Sound) (hname : blueprint.name = some name)
    (hunused : w.named? name = none) (hfree : w.freeCell? = some cell) :
    (w.withNew blueprint cell).Sound :=
  hsound.create (create_of_unused hname hunused hfree)

/-! ### What stays as it is -/

/-- Whether two worlds agree on all objects but one, and on where these are. -/
def AgreeOff (id : ObjectId) (w next : World) : Prop :=
  ∀ x, x ≠ id → next.find? x = w.find? x ∧ next.containerOf? x = w.containerOf? x

theorem AgreeOff.trans (hfirst : AgreeOff id w next) (hsecond : AgreeOff id next last) :
    AgreeOff id w last := fun x hx =>
  ⟨(hsecond x hx).1.trans (hfirst x hx).1, (hsecond x hx).2.trans (hfirst x hx).2⟩

theorem find?_handOver (w : World) (o : Object) (owner : Owner) (x : ObjectId) :
    (w.handOver o owner).find? x =
      if x = o.id then (w.find? x).map fun o => { o with owner := owner } else w.find? x :=
  find?_modify (f := fun o => { o with owner := owner }) (fun _ => rfl) w o.id x

theorem agreeOff_handOver (w : World) (o : Object) (owner : Owner) :
    AgreeOff o.id w (w.handOver o owner) := by
  intro x hx
  rw [find?_handOver, if_neg hx]
  exact ⟨rfl, rfl⟩

theorem find?_liftOut (w : World) (o : Object) (container : ObjectId) (cell : Cell) (x : ObjectId) :
    (w.liftOut o container cell).find? x =
      if x = o.id then (w.find? x).map (moveTo (some cell)) else w.find? x :=
  find?_modify_moveTo (w.unlink o.id) o.id (some cell) x

theorem containerOf?_liftOut (w : World) (o : Object) (container : ObjectId) (cell : Cell)
    (x : ObjectId) :
    (w.liftOut o container cell).containerOf? x =
      if x = o.id then none else w.containerOf? x :=
  containerOf?_unlink w o.id x

theorem agreeOff_liftOut (w : World) (o : Object) (container : ObjectId) (cell : Cell) :
    AgreeOff o.id w (w.liftOut o container cell) := by
  intro x hx
  rw [find?_liftOut, if_neg hx, containerOf?_liftOut, if_neg hx]
  exact ⟨rfl, rfl⟩

theorem find?_withNew (hsound : w.Sound) (blueprint : Blueprint) (cell : Cell) (x : ObjectId) :
    (w.withNew blueprint cell).find? x =
      if x = w.nextId then some (w.newObject blueprint cell) else w.find? x :=
  hsound.numbered.find?_withObject (o := w.newObject blueprint cell) rfl x

theorem agreeOff_withNew (hsound : w.Sound) (blueprint : Blueprint) (cell : Cell) :
    AgreeOff w.nextId w (w.withNew blueprint cell) := by
  intro x hx
  rw [find?_withNew hsound, if_neg hx]
  exact ⟨rfl, rfl⟩

/-! ### Names -/

theorem named?_handOver (w : World) (o : Object) (owner : Owner) (name : String) :
    (w.handOver o owner).named? name =
      (w.named? name).map fun x => if x.id == o.id then { x with owner := owner } else x :=
  named?_modify (f := fun o => { o with owner := owner }) (fun _ => rfl) w o.id name

theorem named?_liftOut (w : World) (o : Object) (container : ObjectId) (cell : Cell)
    (name : String) :
    (w.liftOut o container cell).named? name =
      (w.named? name).map fun x => if x.id == o.id then moveTo (some cell) x else x :=
  named?_modify (f := moveTo (some cell)) (fun _ => rfl) (w.unlink o.id) o.id name

theorem named?_withNew (hunused : w.named? name = none) (blueprint : Blueprint) (cell : Cell) :
    (w.withNew blueprint cell).named? name =
      if Text.lower (w.newObject blueprint cell).name.toList = nameKey name then
        some (w.newObject blueprint cell)
      else none :=
  named?_withObject hunused (w.newObject blueprint cell)

end Apprentice.World
