import Apprentice.Proofs.World.Replay
import Mathlib.Data.List.Chain

/-!
# The log as history

What the log says after a run. As a whole it is numbered, ordered in time, and a full account of
which objects there are and where they lie. And it tells the story of every object: the object is
made, passes from owner to owner without a gap, may be destroyed, and then nothing is heard of it
any more.

The stories are built up event by event. An event goes on with the story of its own object, from
where the object stands, and leaves the stories of all others alone; so a run keeps the invariant
that every story ends where the object stands now.
-/

namespace Apprentice.World

variable {w next : World} {id : ObjectId} {standing : Option (String × Owner)} {events : List Event}
  {e : Event}

def eventsOf (w : World) (id : ObjectId) : List Event :=
  w.events.filter fun e => e.object == id

/-- From whom to whom an object has passed, according to its events. -/
def transfersOf (events : List Event) : List (Owner × Owner) :=
  events.filterMap fun e =>
    match e.kind with
    | .transfer source target => some (source, target)
    | _ => none

/-- How the events about one object go on after the first one. -/
structure Runs (first : Event) (rest : List Event) : Prop where
  created : first.kind = .create
  once : ∀ e ∈ rest, e.kind ≠ .create
  name : ∀ e ∈ rest, e.name = first.name
  /-- What is passed on was received before. -/
  chain : (transfersOf rest).IsChain fun earlier later => earlier.2 = later.1
  changes : ∀ t ∈ transfersOf rest, t.1 ≠ t.2

/-- The record of an object: the event of its making, and the later events about it. -/
structure Record (w : World) (id : ObjectId) (first : Event) (rest : List Event) : Prop where
  events : w.eventsOf id = first :: rest
  runs : Runs first rest
  /-- A live object has not been destroyed, and has the owner that it was given to last. -/
  live : ∀ o, w.find? id = some o → o.name = first.name ∧ (∀ e ∈ rest, e.kind ≠ .destroy) ∧
    ∀ t, (transfersOf rest).getLast? = some t → t.2 = o.owner
  /-- An object that is gone was destroyed, once, and that is the last of it. -/
  gone : w.find? id = none → ∃ before last, rest = before ++ [last] ∧ last.kind = .destroy ∧
    ∀ e ∈ before, e.kind ≠ .destroy

/-! ### Stories -/

/-- The events about one object up to a time, and where the object stands then. -/
inductive Story : List Event → Option (String × Owner) → Prop
  | untold : Story [] none
  | begins {e : Event} {owner} (hkind : e.kind = .create) : Story [e] (some (e.name, owner))
  | goesOn {events : List Event} {e : Event} {before after} (hstory : Story events (some before))
      (hturn : Turn e.name e.kind (some before) after) : Story (events ++ [e]) after

theorem Story.ne_nil {name : String} {owner : Owner} (hstory : Story events (some (name, owner))) :
    events ≠ [] := by
  cases hstory <;> simp

/-- How a story stands at its end: the object is destroyed by the last event, or there is no such
event and the object has its name and its last owner. -/
def EndsAt (first : Event) (rest : List Event) : Option (String × Owner) → Prop
  | none => ∃ before last, rest = before ++ [last] ∧ last.kind = .destroy ∧
      ∀ e ∈ before, e.kind ≠ .destroy
  | some (name, owner) => name = first.name ∧ (∀ e ∈ rest, e.kind ≠ .destroy) ∧
      ∀ t, (transfersOf rest).getLast? = some t → t.2 = owner

theorem transfersOf_concat (events : List Event) (e : Event) :
    transfersOf (events ++ [e]) = transfersOf events ++ transfersOf [e] :=
  List.filterMap_append

theorem transfersOf_singleton {source target : Owner} (hkind : e.kind = .transfer source target) :
    transfersOf [e] = [(source, target)] := by
  simp [transfersOf, hkind]

theorem transfersOf_singleton_of_ne (hkind : ∀ source target, e.kind ≠ .transfer source target) :
    transfersOf [e] = [] := by
  rw [transfersOf, List.filterMap_cons]
  split
  next => rfl
  next t ht =>
    split at ht
    next source target heq => exact absurd heq (hkind source target)
    next => cases ht

/-- An event that hands nothing over leaves the transfers as they were. -/
theorem Runs.concat {first : Event} {rest : List Event} (hruns : Runs first rest)
    (hname : e.name = first.name) (hcreate : e.kind ≠ .create)
    (hkind : ∀ source target, e.kind ≠ .transfer source target) :
    Runs first (rest ++ [e]) ∧ transfersOf (rest ++ [e]) = transfersOf rest := by
  have hsame : transfersOf (rest ++ [e]) = transfersOf rest := by
    rw [transfersOf_concat, transfersOf_singleton_of_ne hkind, List.append_nil]
  refine ⟨⟨hruns.created, ?_, ?_, hsame ▸ hruns.chain, hsame ▸ hruns.changes⟩, hsame⟩
  · exact List.forall_mem_append.mpr ⟨hruns.once, List.forall_mem_singleton.mpr hcreate⟩
  · exact List.forall_mem_append.mpr ⟨hruns.name, List.forall_mem_singleton.mpr hname⟩

theorem Runs.concat_transfer {first : Event} {rest : List Event} {source target : Owner}
    (hruns : Runs first rest) (hname : e.name = first.name)
    (hkind : e.kind = .transfer source target) (hne : source ≠ target)
    (hlast : ∀ t, (transfersOf rest).getLast? = some t → t.2 = source) :
    Runs first (rest ++ [e]) := by
  have hmore : transfersOf (rest ++ [e]) = transfersOf rest ++ [(source, target)] := by
    rw [transfersOf_concat, transfersOf_singleton hkind]
  refine ⟨hruns.created, ?_, ?_, ?_, ?_⟩
  · refine List.forall_mem_append.mpr ⟨hruns.once, List.forall_mem_singleton.mpr ?_⟩
    rw [hkind]
    nofun
  · exact List.forall_mem_append.mpr ⟨hruns.name, List.forall_mem_singleton.mpr hname⟩
  · rw [hmore, List.isChain_append]
    refine ⟨hruns.chain, List.isChain_singleton _, ?_⟩
    intro earlier hearlier later hlater
    obtain rfl : (source, target) = later := by simpa using hlater
    exact hlast earlier hearlier
  · rw [hmore]
    exact List.forall_mem_append.mpr ⟨hruns.changes, List.forall_mem_singleton.mpr hne⟩

/-- Every story that has begun tells of the making first, and ends where the object stands. -/
theorem Story.told (hstory : Story events standing) (hbegun : events ≠ []) :
    ∃ first rest, events = first :: rest ∧ Runs first rest ∧ EndsAt first rest standing := by
  induction hstory with
  | untold => exact absurd rfl hbegun
  | begins hkind =>
      exact ⟨_, [], rfl, ⟨hkind, by simp, by simp, .nil, by simp [transfersOf]⟩,
        rfl, by simp, by simp [transfersOf]⟩
  | @goesOn events e before after hstory hturn ih =>
      obtain ⟨first, rest, rfl, hruns, hname, halive, hlast⟩ := ih hstory.ne_nil
      refine ⟨first, rest ++ [e], rfl, ?_⟩
      generalize hkind : e.kind = kind at hturn
      cases hturn with
      | destroy =>
          obtain ⟨hruns', -⟩ := hruns.concat hname (by simp [hkind]) (by simp [hkind])
          exact ⟨hruns', rest, e, rfl, hkind, halive⟩
      | transfer hne =>
          refine ⟨hruns.concat_transfer hname hkind hne hlast, hname, ?_, ?_⟩
          · exact List.forall_mem_append.mpr ⟨halive, List.forall_mem_singleton.mpr (by simp [hkind])⟩
          · rw [transfersOf_concat, transfersOf_singleton hkind]
            simp
      | putIn =>
          obtain ⟨hruns', hsame⟩ := hruns.concat hname (by simp [hkind]) (by simp [hkind])
          refine ⟨hruns', hname, ?_, hsame ▸ hlast⟩
          exact List.forall_mem_append.mpr ⟨halive, List.forall_mem_singleton.mpr (by simp [hkind])⟩
      | takeOut =>
          obtain ⟨hruns', hsame⟩ := hruns.concat hname (by simp [hkind]) (by simp [hkind])
          refine ⟨hruns', hname, ?_, hsame ▸ hlast⟩
          exact List.forall_mem_append.mpr ⟨halive, List.forall_mem_singleton.mpr (by simp [hkind])⟩

/-! ### The log of a world -/

/-- What holds of the log of a world at any time of a run. -/
structure Recorded (w : World) : Prop where
  numbers : w.events.map Event.id = List.range' 1 w.events.length
  ordered : (w.events.map Event.time).Pairwise (· ≤ ·)
  past : ∀ e ∈ w.events, e.time ≤ w.time
  register : Register.replay w.events = some w.register
  known : ∀ e ∈ w.events, 0 < e.object ∧ e.object < w.nextId
  begun : ∀ id, 0 < id → id < w.nextId → w.eventsOf id ≠ []
  story : ∀ id, Story (w.eventsOf id) (w.standing id)
  /-- Containers go by their own names. -/
  named : ∀ e ∈ w.events, ∀ container name,
    e.kind = .putIn container name ∨ e.kind = .takeOut container name →
      ∃ made ∈ w.eventsOf container, made.kind = .create ∧ made.name = name

theorem eventsOf_concat (hevents : next.events = w.events ++ [e]) (id : ObjectId) :
    next.eventsOf id = w.eventsOf id ++ if e.object = id then [e] else [] := by
  rw [eventsOf, hevents, List.filter_append, ← eventsOf]
  by_cases hid : e.object = id <;> simp [hid]

theorem Recorded.silent (hrecorded : w.Recorded) (hsilent : Silent w next) : next.Recorded := by
  have hof : next.eventsOf = w.eventsOf := by
    funext id
    rw [eventsOf, eventsOf, hsilent.events]
  refine ⟨?_, ?_, ?_, ?_, ?_, ?_, ?_, ?_⟩
  · rw [hsilent.events]
    exact hrecorded.numbers
  · rw [hsilent.events]
    exact hrecorded.ordered
  · rw [hsilent.events]
    exact fun e he => Nat.le_trans (hrecorded.past e he) hsilent.clock
  · rw [hsilent.events, hsilent.register]
    exact hrecorded.register
  · rw [hsilent.events, hsilent.nextId]
    exact hrecorded.known
  · rw [hof, hsilent.nextId]
    exact hrecorded.begun
  · rw [hof, hsilent.standing]
    exact hrecorded.story
  · rw [hsilent.events, hof]
    exact hrecorded.named

theorem Recorded.eventsOf_nextId (hrecorded : w.Recorded) : w.eventsOf w.nextId = [] := by
  rw [eventsOf, List.filter_eq_nil_iff]
  intro e he
  have hlt := (hrecorded.known e he).2
  simpa using Nat.ne_of_lt hlt

theorem Recorded.story_tells (hrecorded : w.Recorded) (htells : Tells w next e) :
    Story (w.eventsOf e.object ++ [e]) (next.standing e.object) := by
  have hturn := htells.turn
  rcases htells.numbered with ⟨hcreate, hnew, -⟩ | ⟨hother, -, -⟩
  · obtain ⟨owner, hafter⟩ := (hcreate ▸ hturn).exists_after
    rw [hafter, hnew, hrecorded.eventsOf_nextId]
    exact .begins hcreate
  · obtain ⟨standing, hbefore⟩ := hturn.exists_before hother
    rw [hbefore] at hturn
    exact .goesOn (hbefore ▸ hrecorded.story e.object) hturn

theorem Story.made {name : String} {owner : Owner} (hstory : Story events (some (name, owner))) :
    ∃ made ∈ events, made.kind = .create ∧ made.name = name := by
  obtain ⟨first, rest, rfl, hruns, hname, -, -⟩ := hstory.told hstory.ne_nil
  exact ⟨first, List.mem_cons_self, hruns.created, hname.symm⟩

theorem Recorded.tells (hrecorded : w.Recorded) (hnumbered : w.Numbered)
    (htells : Tells w next e) : next.Recorded := by
  have hof := eventsOf_concat htells.events
  have hmore : ∀ id, w.eventsOf id ⊆ next.eventsOf id := by
    intro id
    rw [hof]
    exact List.subset_append_left _ _
  have hnext : w.nextId ≤ next.nextId := by
    rcases htells.numbered with ⟨-, -, hid⟩ | ⟨-, -, hid⟩
    · exact hid ▸ Nat.le_succ _
    · exact Nat.le_of_eq hid.symm
  refine ⟨?_, ?_, ?_, ?_, ?_, ?_, ?_, ?_⟩
  · rw [htells.events, List.map_append, hrecorded.numbers, List.length_append, List.length_singleton,
      List.range'_concat, List.map_singleton, htells.id, Nat.one_mul, Nat.add_comm 1]
  · rw [htells.events, List.map_append, List.pairwise_append]
    refine ⟨hrecorded.ordered, List.pairwise_singleton _ _, ?_⟩
    intro earlier hearlier later hlater
    obtain ⟨f, hf, rfl⟩ := List.mem_map.mp hearlier
    obtain rfl : later = e.time := by simpa using hlater
    rw [htells.time]
    exact hrecorded.past f hf
  · rw [htells.events, htells.clock]
    exact List.forall_mem_append.mpr ⟨hrecorded.past,
      List.forall_mem_singleton.mpr (Nat.le_of_eq htells.time)⟩
  · rw [htells.events, Register.replay_concat hrecorded.register]
    exact htells.register
  · rw [htells.events]
    refine List.forall_mem_append.mpr ⟨fun f hf => ?_, List.forall_mem_singleton.mpr ?_⟩
    · obtain ⟨hpos, hlt⟩ := hrecorded.known f hf
      exact ⟨hpos, Nat.lt_of_lt_of_le hlt hnext⟩
    · rcases htells.numbered with ⟨-, hnew, hid⟩ | ⟨-, hold, hid⟩
      · rw [hid, hnew]
        exact ⟨hnumbered.nextId_pos, Nat.lt_succ_self _⟩
      · rw [hid]
        exact ⟨hnumbered.id_pos _ hold, hnumbered.id_lt _ hold⟩
  · intro id hpos hlt
    rw [hof]
    by_cases hid : e.object = id
    · simp [hid]
    · have hold : id < w.nextId := by
        rcases htells.numbered with ⟨-, hnew, hnextId⟩ | ⟨-, -, hnextId⟩
        · rw [hnextId] at hlt
          exact Nat.lt_of_le_of_ne (Nat.le_of_lt_succ hlt) (hnew ▸ Ne.symm hid)
        · exact hnextId ▸ hlt
      simp [hrecorded.begun id hpos hold]
  · intro id
    rw [hof]
    by_cases hid : e.object = id
    · subst hid
      rw [if_pos rfl]
      exact hrecorded.story_tells htells
    · rw [if_neg hid, List.append_nil, htells.others id (Ne.symm hid)]
      exact hrecorded.story id
  · rw [htells.events]
    refine List.forall_mem_append.mpr ⟨?_, List.forall_mem_singleton.mpr ?_⟩
    · intro f hf container name hkind
      obtain ⟨made, hmade, hrest⟩ := hrecorded.named f hf container name hkind
      exact ⟨made, hmore container hmade, hrest⟩
    · intro container name hkind
      obtain ⟨owner, hstanding⟩ := htells.named container name hkind
      obtain ⟨made, hmade, hrest⟩ := (hstanding ▸ hrecorded.story container).made
      exact ⟨made, hmore container hmade, hrest⟩

theorem recorded_new (width height : UInt32) : (new width height).Recorded where
  numbers := rfl
  ordered := .nil
  past := fun _ he => absurd he List.not_mem_nil
  register := rfl
  known := fun _ he => absurd he List.not_mem_nil
  begun := fun _ hpos hlt => absurd hlt (Nat.not_lt.mpr hpos)
  story := fun _ => .untold
  named := fun _ he => absurd he List.not_mem_nil

theorem Recorded.record (hrecorded : w.Recorded) (hpos : 0 < id) (hlt : id < w.nextId) :
    ∃ first rest, w.Record id first rest := by
  obtain ⟨first, rest, hevents, hruns, hends⟩ :=
    (hrecorded.story id).told (hrecorded.begun id hpos hlt)
  refine ⟨first, rest, hevents, hruns, fun o hfind => ?_, fun hgone => ?_⟩
  · rw [standing_eq_some hfind] at hends
    exact hends
  · rw [standing, hgone] at hends
    exact hends

/-- After every run the events are numbered from one on and ordered in time, and none of them is in
the future. Entering them in a register gives the live objects and the links. The objects of the
events are those that were given an id, each of them with a record that fits what it is now; and a
container is called what it was called when it was made. -/
theorem run_recorded (width height : UInt32) (ops : List Operation) {w : World}
    (hrun : (new width height).run ops = some w) :
    w.events.map Event.id = List.range' 1 w.events.length ∧
    (w.events.map Event.time).Pairwise (· ≤ ·) ∧ (∀ e ∈ w.events, e.time ≤ w.time) ∧
    (∃ r, Register.replay w.events = some r ∧ r.live = w.objects.map Object.id ∧
      ∀ id container, r.containerOf id = some container ↔ (id, container) ∈ w.containers) ∧
    (∀ e ∈ w.events, e.object ∈ (new width height).idsGiven ops) ∧
    (∀ id ∈ (new width height).idsGiven ops, ∃ first rest, w.Record id first rest) ∧
    ∀ e ∈ w.events, ∀ container name,
      e.kind = .putIn container name ∨ e.kind = .takeOut container name →
        ∃ made ∈ w.eventsOf container, made.kind = .create ∧ made.name = name := by
  obtain ⟨hsound, hrecorded⟩ := (sound_new width height).run_induction (P := Recorded)
    hrun (recorded_new width height) fun hsound hrecorded hstep => by
      rcases hsound.step_cases hstep with hsilent | ⟨e, htells⟩
      · exact hrecorded.silent hsilent
      · exact hrecorded.tells hsound.numbered htells
  have hadvances := advances_run hrun
  have hgiven : ∀ id, id ∈ (new width height).idsGiven ops ↔ 0 < id ∧ id < w.nextId := by
    intro id
    have hfirst : (new width height).nextId = 1 := rfl
    rw [hadvances.given_eq, List.mem_range'_1, ← hadvances.nextId, hfirst, Nat.add_comm 1]
    exact Iff.rfl
  refine ⟨hrecorded.numbers, hrecorded.ordered, hrecorded.past, ⟨_, hrecorded.register, rfl, ?_⟩,
    fun e he => (hgiven _).mpr (hrecorded.known e he), fun id hid => ?_, hrecorded.named⟩
  · exact fun id container => containerOf?_eq_some_iff hsound.forest.linksAreMap
  · obtain ⟨hpos, hlt⟩ := (hgiven id).mp hid
    exact hrecorded.record hpos hlt

/-- A bead in a sack in a box changes hands twice. When the sack is destroyed it comes to the box,
from which it is taken out, though no event says how it came there. -/
theorem run_recorded_of_bead :
    ∃ w, (new 3 1).run
        [.create {}, .create {}, .create {}, .putInto 3 2, .putInto 2 1, .setOwner 3 .agent,
          .advanceClock, .setOwner 3 .agent, .setOwner 3 .user, .remove 2, .takeOut 3, .takeOut 1]
        = some w ∧
      (w.eventsOf 3).map Event.kind =
        [.create, .putIn 2 "object_2", .transfer .world .agent, .transfer .agent .user,
          .takeOut 1 "object_1"] ∧
      w.events.map Event.id = List.range' 1 w.events.length ∧
      (∃ r, Register.replay w.events = some r ∧ r.live = w.objects.map Object.id) ∧
      (∃ first rest, w.Record 2 first rest) ∧ ∃ first rest, w.Record 3 first rest := by
  have hends : (((new 3 1).run
      [.create {}, .create {}, .create {}, .putInto 3 2, .putInto 2 1, .setOwner 3 .agent,
        .advanceClock, .setOwner 3 .agent, .setOwner 3 .user, .remove 2, .takeOut 3, .takeOut 1]).map
      fun w => (w.eventsOf 3).map Event.kind) =
      some [.create, .putIn 2 "object_2", .transfer .world .agent, .transfer .agent .user,
        .takeOut 1 "object_1"] := by
    decide +kernel
  obtain ⟨w, hrun, hkinds⟩ := Option.map_eq_some_iff.mp hends
  obtain ⟨hids, -, -, ⟨r, hreplay, hlive, -⟩, -, hrecords, -⟩ := run_recorded 3 1 _ hrun
  exact ⟨w, hrun, hkinds, hids, ⟨r, hreplay, hlive⟩, hrecords 2 (by decide +kernel),
    hrecords 3 (by decide +kernel)⟩

end Apprentice.World
