import Roadway.Proofs.Entity.Roster
import Roadway.Proofs.Network.Layout
import Roadway.Proofs.Session.Operation

/-!
# Clients with entities of their own

A command about an entity looks at that entity alone and changes no other, provided that
speed factors are not drawn from the common stream. So it answers alike in sessions that
agree on the entity, and sessions that agree on others go on to do so. Commands of two
clients who command different entities may then be interleaved in any way: each client is
answered as if one of them had been served before the other, and the session is the same
in the end.

## Main definitions

* `Command.subject?` — the entity that a command is about.
* `Session.Touches` — one change under one id, made in two sessions.
* `Session.Agree` — sessions that differ at most in entities that are not looked at.
* `Client`, `shareOf`, `Session.serve` — two clients, what belongs to each, and their
  commands in turn.
* `Session.serve_interleaved` — an interleaving of commands against one client after the
  other.
-/
namespace Roadway
variable {α : Type}

/-- The entity that a command is about. -/
def Command.subject? : Command α → Option String
  | .place c => some c.id
  | .position id => some id
  | .remove id => some id
  | .insert c => some c.id
  | .step | .time | .snapshot | .close => none

namespace Roster

/-- The roster with another entity, or none, under an id. -/
def put (r : Roster α) (id : String) : Option (Entity α) → Roster α
  | some e => r.insert e
  | none => r.erase id

theorem find?_put {r : Roster α} {id : String} {e? : Option (Entity α)}
    (named : ∀ e, e? = some e → e.id = id) (x : String) :
    (r.put id e?).find? x = if x = id then e? else r.find? x := by
  cases e? with
  | none => exact find?_erase r id x
  | some e =>
    obtain rfl := named e rfl
    rw [put, find?_insert]
    simp only [eq_comm]

theorem put_find? (r : Roster α) (id : String) : r.put id (r.find? id) = r := by
  refine ext_find? fun x => ?_
  rw [find?_put fun e found => id_of_find? found]
  split
  · next same => rw [same]
  · rfl

end Roster

namespace Session

/-- The session with other entities. -/
def withRoster (s : Session α) (r : Roster α) : Session α := { s with roster := r }

/-- Two outcomes, of a session and of one with other entities, that give the same answer and
put the same entity under an id. -/
def Touches {β : Type} (s : Session α) (r : Roster α) (id : String)
    (outcome outcome' : Outcome α β) : Prop :=
  ∃ e? : Option (Entity α), (∀ e, e? = some e → e.id = id) ∧
    outcome.2 = s.withRoster (s.roster.put id e?) ∧
    outcome' = (outcome.1, s.withRoster (r.put id e?))

section Frame
variable (s : Session α) (r : Roster α)

@[simp] theorem index_withRoster : (s.withRoster r).index = s.index := rfl
@[simp] theorem network_withRoster : (s.withRoster r).network = s.network := rfl
@[simp] theorem settings_withRoster : (s.withRoster r).settings = s.settings := rfl
@[simp] theorem roster_withRoster : (s.withRoster r).roster = r := rfl
@[simp] theorem closed_withRoster : (s.withRoster r).closed = s.closed := rfl

@[simp] theorem request_withRoster (args : PlaceArgs α) (kind : Kind) :
    (s.withRoster r).request args kind = s.request args kind := rfl

end Frame

section Touches
variable {β γ : Type} {s : Session α} {r : Roster α} {id : String}

/-- Nothing is touched by what leaves a session as it is. -/
theorem Touches.same (found : r.find? id = s.roster.find? id)
    (answer : Except (ControlFault α) β) :
    Touches s r id (answer, s) (answer, s.withRoster r) := by
  refine ⟨s.roster.find? id, fun e known => Roster.id_of_find? known, ?_, ?_⟩
  · rw [Roster.put_find?]
    rfl
  · rw [← found, Roster.put_find?]

theorem Touches.insert {e : Entity α} (named : e.id = id) (answer : Except (ControlFault α) β) :
    Touches s r id (answer, s.withRoster (s.roster.insert e))
      (answer, s.withRoster (r.insert e)) := by
  refine ⟨some e, ?_, rfl, rfl⟩
  rintro x ⟨⟩
  exact named

theorem Touches.erase (answer : Except (ControlFault α) β) :
    Touches s r id (answer, s.withRoster (s.roster.erase id))
      (answer, s.withRoster (r.erase id)) :=
  ⟨none, nofun, rfl, rfl⟩

theorem Touches.map {outcome outcome' : Outcome α β} (touches : Touches s r id outcome outcome')
    (f : β → γ) : Touches s r id (outcome.map (·.map f) fun s => s)
      (outcome'.map (·.map f) fun s => s) := by
  obtain ⟨e?, named, left, rfl⟩ := touches
  exact ⟨e?, named, left, rfl⟩

end Touches

section Commands
variable [Scalar α] {s : Session α} {r : Roster α} {id : String}

/-- Speed factors are one, and no deviates are drawn for them. -/
def Steady (s : Session α) : Prop :=
  ∀ kind, (s.settings.motion.profile kind).speedDev ≤ (0.0 : α)

theorem Steady.create (steady : s.Steady) (id : String) (kind : Kind) :
    s.create id kind = (Entity.create id kind 1.0, s.deviates) := by
  rw [Session.create, DeviateStream.sample, if_pos (steady kind)]

variable (found : r.find? id = s.roster.find? id)
include found

theorem touches_place (steady : s.Steady) (args : PlaceArgs α) :
    Touches s r id (s.place id args) ((s.withRoster r).place id args) := by
  have steady' : (s.withRoster r).Steady := steady
  unfold place
  rw [closed_withRoster, roster_withRoster, found]
  by_cases shut : s.closed = true
  · rw [if_pos shut, if_pos shut]
    exact .same found _
  rw [if_neg shut, if_neg shut]
  by_cases empty : id.isEmpty = true
  · rw [if_pos empty, if_pos empty]
    exact .same found _
  rw [if_neg empty, if_neg empty]
  cases present : s.roster.find? id with
  | none =>
    simp only [Option.elim_none, request_withRoster, index_withRoster, settings_withRoster,
      steady.create, steady'.create]
    split
    · exact .same found _
    · refine .insert ?_ _
      rfl
  | some e =>
    simp only [Option.elim_some, request_withRoster, index_withRoster, settings_withRoster]
    split
    · exact .same found _
    · have same : e.id = id := Roster.id_of_find? present
      refine .insert ?_ _
      exact same

theorem touches_insert (steady : s.Steady) (args : InsertArgs α) :
    Touches s r id (s.insert id args) ((s.withRoster r).insert id args) := by
  have steady' : (s.withRoster r).Steady := steady
  unfold insert
  rw [closed_withRoster, roster_withRoster, found]
  by_cases shut : s.closed = true
  · rw [if_pos shut, if_pos shut]
    exact .same found _
  rw [if_neg shut, if_neg shut]
  by_cases empty : id.isEmpty = true
  · rw [if_pos empty, if_pos empty]
    exact .same found _
  rw [if_neg empty, if_neg empty]
  by_cases present : (s.roster.find? id).isSome = true
  · rw [if_pos present, if_pos present]
    exact .same found _
  rw [if_neg present, if_neg present]
  simp only [network_withRoster, steady.create, steady'.create]
  split
  · exact .same found _
  · split
    · exact .same found _
    · split
      · exact .same found _
      · refine .insert ?_ _
        rfl

omit [Scalar α] in
theorem touches_remove : Touches s r id (s.remove id) ((s.withRoster r).remove id) := by
  rw [remove, remove, closed_withRoster, roster_withRoster, found]
  by_cases shut : s.closed = true
  · rw [if_pos shut, if_pos shut]
    exact .same found _
  rw [if_neg shut, if_neg shut]
  cases s.roster.find? id with
  | none => exact .same found _
  | some e => exact .erase _

theorem position_withRoster : (s.withRoster r).position id = s.position id := by
  have known : (s.withRoster r).roster.find? id = s.roster.find? id := found
  rw [position, position, entity, entity, known]
  rfl

/-- A command touches nothing but the entity that it is about. -/
theorem touches_dispatch (steady : s.Steady) {c : Command α} (about : c.subject? = some id) :
    Touches s r id (s.dispatch c) ((s.withRoster r).dispatch c) := by
  cases c with
  | place c =>
    cases about
    exact (touches_place found steady c.args).map _
  | insert c =>
    cases about
    exact (touches_insert found steady c.args).map _
  | remove =>
    cases about
    exact (touches_remove found).map _
  | position =>
    cases about
    rw [dispatch, dispatch, position_withRoster found]
    exact .same found _
  | step | time | snapshot | close => cases about

end Commands

/-- Two sessions that are alike but for entities with other ids. -/
structure Agree (P : String → Prop) (s t : Session α) : Prop where
  frame : t = s.withRoster t.roster
  found : ∀ id, P id → t.roster.find? id = s.roster.find? id

namespace Agree
variable {P : String → Prop} {s t u : Session α}

theorem refl (P : String → Prop) (s : Session α) : Agree P s s := ⟨rfl, fun _ _ => rfl⟩

theorem symm (h : Agree P s t) : Agree P t s :=
  ⟨by rw [h.frame]; rfl, fun id hid => (h.found id hid).symm⟩

theorem trans (h : Agree P s t) (h' : Agree P t u) : Agree P s u :=
  ⟨by rw [h'.frame, h.frame]; rfl, fun id hid => (h'.found id hid).trans (h.found id hid)⟩

/-- Sessions that agree on all entities are the same. -/
theorem eq (h : Agree P s t) (h' : Agree (fun id => ¬ P id) s t) : t = s := by
  have same : t.roster = s.roster := Roster.ext_find? fun id => by
    by_cases hid : P id
    · exact h.found id hid
    · exact h'.found id hid
  rw [h.frame, same]
  rfl

variable [Scalar α]

theorem steady (h : Agree P s t) (steady : s.Steady) : t.Steady := by
  rw [h.frame]
  exact steady

end Agree

section Run
variable [Scalar α] {P : String → Prop} {s t : Session α} {c : Command α} {id : String}

/-- Sessions that agree on what a command is about answer alike, and go on to agree. -/
theorem Agree.dispatch (h : Agree P s t) (steady : s.Steady) (about : c.subject? = some id)
    (looked : P id) :
    (t.dispatch c).1 = (s.dispatch c).1 ∧ Agree P (s.dispatch c).2 (t.dispatch c).2 := by
  have touches := touches_dispatch (h.found id looked) steady about
  rw [← h.frame] at touches
  obtain ⟨e?, named, left, both⟩ := touches
  rw [both, left]
  refine ⟨rfl, rfl, ?_⟩
  intro x hx
  change (t.roster.put id e?).find? x = (s.roster.put id e?).find? x
  rw [Roster.find?_put named, Roster.find?_put named, h.found x hx]

/-- A command leaves the entities that it is not about. -/
theorem agree_dispatch (steady : s.Steady) (about : c.subject? = some id) (other : ¬ P id) :
    Agree P s (s.dispatch c).2 := by
  obtain ⟨e?, named, left, -⟩ := touches_dispatch (r := s.roster) rfl steady about
  rw [left]
  refine ⟨rfl, ?_⟩
  intro x hx
  have distinct : x ≠ id := fun same => other (same ▸ hx)
  exact (Roster.find?_put named x).trans (if_neg distinct)

theorem steady_dispatch (steady : s.Steady) (about : c.subject? = some id) :
    (s.dispatch c).2.Steady :=
  (agree_dispatch (P := fun _ => False) steady about not_false).steady steady

/-- A run leaves the entities that none of its commands is about. -/
theorem agree_run (steady : s.Steady) {cs : List (Command α)}
    (about : ∀ c ∈ cs, ∃ id, c.subject? = some id ∧ ¬ P id) : Agree P s (s.run cs).2 := by
  induction cs generalizing s with
  | nil => exact .refl P s
  | cons c rest ih =>
    obtain ⟨id, subject, other⟩ := about c List.mem_cons_self
    have first := agree_dispatch steady subject other
    exact first.trans (ih (first.steady steady) fun x hx => about x (List.mem_cons_of_mem c hx))

end Run
end Session

/-- Two clients of one session. -/
inductive Client
  | one
  | two
  deriving DecidableEq, Repr

namespace Client

def other : Client → Client
  | one => two
  | two => one

theorem other_other (c : Client) : c.other.other = c := by cases c <;> rfl

theorem ne_other (c : Client) : c ≠ c.other := by cases c <;> nofun

theorem eq_other_of_ne {c d : Client} (h : d ≠ c) : d = c.other := by
  cases c <;> cases d <;> first | rfl | exact absurd rfl h

end Client

/-- What belongs to a client, in the order that it stands in. -/
def shareOf {β : Type} (c : Client) (xs : List (Client × β)) : List β :=
  xs.filterMap fun (d, x) => if d = c then some x else none

section Share
variable {β : Type} {c d : Client} {x : β} {xs : List (Client × β)}

@[simp] theorem shareOf_nil : shareOf c ([] : List (Client × β)) = [] := rfl

theorem shareOf_cons_self : shareOf c ((c, x) :: xs) = x :: shareOf c xs := by
  simp [shareOf]

theorem shareOf_cons_of_ne (h : d ≠ c) : shareOf c ((d, x) :: xs) = shareOf c xs := by
  simp [shareOf, h]

theorem mem_shareOf : x ∈ shareOf c xs ↔ (c, x) ∈ xs := by
  simp [shareOf]

end Share

namespace Session
variable [Scalar α]

/-- Applies the commands of two clients in turn, and sends each answer to its client. -/
def serve (s : Session α) :
    List (Client × Command α) →
      List (Client × Except (ControlFault α) (Answer α)) × Session α
  | [] => ([], s)
  | (client, c) :: rest =>
    let (answer, next) := s.dispatch c
    let (answers, last) := next.serve rest
    ((client, answer) :: answers, last)

/-- The session goes through the commands as they stand. -/
theorem serve_run (s : Session α) (cs : List (Client × Command α)) :
    (s.serve cs).2 = (s.run (cs.map (·.2))).2 ∧
      (s.serve cs).1.map (·.2) = (s.run (cs.map (·.2))).1 ∧
      (s.serve cs).1.map (·.1) = cs.map (·.1) := by
  induction cs generalizing s with
  | nil => exact ⟨rfl, rfl, rfl⟩
  | cons x rest ih =>
    obtain ⟨last, answers, clients⟩ := ih (s.dispatch x.2).2
    refine ⟨last, ?_, ?_⟩
    · exact congrArg ((s.dispatch x.2).1 :: ·) answers
    · exact congrArg (x.1 :: ·) clients

/-- A client whose commands are about certain entities, which no other command is about, is
answered as if it was alone. -/
theorem serve_alone {P : String → Prop} {client : Client} {s t : Session α}
    (agree : Agree P s t) (steady : s.Steady) {cs : List (Client × Command α)}
    (own : ∀ c ∈ shareOf client cs, ∃ id, c.subject? = some id ∧ P id)
    (others : ∀ c ∈ shareOf client.other cs, ∃ id, c.subject? = some id ∧ ¬ P id) :
    shareOf client (t.serve cs).1 = (s.run (shareOf client cs)).1 ∧
      Agree P (s.run (shareOf client cs)).2 (t.serve cs).2 := by
  induction cs generalizing s t with
  | nil => exact ⟨rfl, agree⟩
  | cons x rest ih =>
    obtain ⟨d, c⟩ := x
    by_cases mine : d = client
    · subst mine
      rw [shareOf_cons_self, List.forall_mem_cons] at own
      rw [shareOf_cons_of_ne (Client.ne_other d)] at others
      obtain ⟨⟨id, subject, looked⟩, own⟩ := own
      obtain ⟨answered, next⟩ := agree.dispatch steady subject looked
      obtain ⟨answers, last⟩ := ih next (steady_dispatch steady subject) own others
      rw [shareOf_cons_self]
      refine ⟨?_, last⟩
      change shareOf d ((d, (t.dispatch c).1) :: ((t.dispatch c).2.serve rest).1) = _
      rw [shareOf_cons_self, answered, answers]
      rfl
    · obtain rfl := Client.eq_other_of_ne mine
      rw [shareOf_cons_of_ne mine] at own
      rw [shareOf_cons_self, List.forall_mem_cons] at others
      obtain ⟨⟨id, subject, other⟩, others⟩ := others
      have next := agree.trans (agree_dispatch (agree.steady steady) subject other)
      obtain ⟨answers, last⟩ := ih next steady own others
      rw [shareOf_cons_of_ne mine]
      refine ⟨?_, last⟩
      change shareOf client ((client.other, (t.dispatch c).1) ::
        ((t.dispatch c).2.serve rest).1) = _
      rw [shareOf_cons_of_ne mine, answers]

/-- If two clients place, insert, remove and locate entities of their own, it does not
matter how their commands are interleaved: the answers that each of them is sent and the
session in the end are those of serving one client before the other, whichever comes first.
The session keeps all but its entities, and the entities that nobody commands. -/
theorem serve_interleaved (s : Session α) (steady : s.Steady) (cs : List (Client × Command α))
    (about : ∀ x ∈ cs, x.2.subject?.isSome = true)
    (apart : ∀ a ∈ shareOf .one cs, ∀ b ∈ shareOf .two cs, a.subject? ≠ b.subject?)
    (first : Client) :
    (s.serve cs).2 = ((s.run (shareOf first cs)).2.run (shareOf first.other cs)).2 ∧
      shareOf first (s.serve cs).1 = (s.run (shareOf first cs)).1 ∧
      shareOf first.other (s.serve cs).1 =
        ((s.run (shareOf first cs)).2.run (shareOf first.other cs)).1 ∧
      (s.serve cs).2 = s.withRoster (s.serve cs).2.roster ∧
      ∀ id, (∀ x ∈ cs, x.2.subject? ≠ some id) →
        (s.serve cs).2.roster.find? id = s.roster.find? id := by
  let P : String → Prop := fun id => ∃ a ∈ shareOf first cs, a.subject? = some id
  have own : ∀ a ∈ shareOf first cs, ∃ id, a.subject? = some id ∧ P id := by
    intro a ha
    obtain ⟨id, subject⟩ := Option.isSome_iff_exists.1 (about _ (mem_shareOf.1 ha))
    exact ⟨id, subject, a, ha, subject⟩
  have others : ∀ b ∈ shareOf first.other cs, ∃ id, b.subject? = some id ∧ ¬ P id := by
    intro b hb
    obtain ⟨id, subject⟩ := Option.isSome_iff_exists.1 (about _ (mem_shareOf.1 hb))
    refine ⟨id, subject, ?_⟩
    rintro ⟨a, ha, same⟩
    cases first with
    | one => exact apart a ha b hb (same.trans subject.symm)
    | two => exact apart b hb a ha (subject.trans same.symm)
  -- The second client finds its own entities as the first one found them.
  have untouched : Agree (fun id => ¬ P id) s (s.run (shareOf first cs)).2 := by
    refine agree_run steady fun a ha => ?_
    obtain ⟨id, subject, mine⟩ := own a ha
    exact ⟨id, subject, not_not_intro mine⟩
  have steady' := untouched.steady steady
  obtain ⟨answers, agrees⟩ := serve_alone (.refl P s) steady own others
  obtain ⟨answers', agrees'⟩ := serve_alone untouched.symm steady' others (by
    rw [Client.other_other]
    intro a ha
    obtain ⟨id, subject, mine⟩ := own a ha
    exact ⟨id, subject, not_not_intro mine⟩)
  have agrees := (agree_run steady' others).symm.trans agrees
  have leaves {Q : String → Prop}
      (h : ∀ x ∈ cs, ∀ id, x.2.subject? = some id → ¬ Q id) : Agree Q s (s.serve cs).2 := by
    rw [(s.serve_run cs).1]
    refine agree_run steady fun c hc => ?_
    obtain ⟨x, hx, rfl⟩ := List.mem_map.1 hc
    obtain ⟨id, subject⟩ := Option.isSome_iff_exists.1 (about x hx)
    exact ⟨id, subject, h x hx id subject⟩
  refine ⟨agrees.eq agrees', answers, answers', ?_, ?_⟩
  · exact (leaves fun _ _ _ _ => not_false).frame
  · intro id h
    have looked : Agree (· = id) s (s.serve cs).2 := by
      refine leaves fun x hx other subject same => ?_
      exact h x hx (same ▸ subject)
    exact looked.found id rfl

/-- Settings under which every entity drives as its profile says. -/
def steadySettings : SessionSettings Float :=
  { SessionSettings.default with
    motion := ⟨⟨5.0, 13.89, 2.6, 4.5, 0.0⟩, ⟨0.5, 1.39, 1.5, 2.0, 0.0⟩⟩ }

/-- One client inserts a car and looks where it is, while the other one inserts another car,
removes it and looks for it. -/
def turns : List (Client × Command Float) :=
  [(.two, .insert ⟨"b", ⟨.vehicle, "AB", 1, 20.0, 0.0, [], none⟩⟩),
    (.one, .insert ⟨"a", ⟨.vehicle, "AB", 0, 40.0, 6.0, [], none⟩⟩),
    (.two, .remove "b"),
    (.one, .position "a"),
    (.two, .position "b")]

theorem serve_turns :
    let s := fresh (.ofNetwork (.lay .road) 50.0) steadySettings (.ofDraws fun _ => 0.0)
    (s.serve turns).2 = ((s.run (shareOf .one turns)).2.run (shareOf .two turns)).2 ∧
      shareOf .one (s.serve turns).1 = (s.run (shareOf .one turns)).1 ∧
      shareOf .two (s.serve turns).1 =
        ((s.run (shareOf .one turns)).2.run (shareOf .two turns)).1 ∧
      (s.serve turns).2.roster.ids = ["a"] ∧
      (shareOf .two (s.serve turns).1).map (·.isOk) = [true, true, false] := by
  intro s
  have steady : s.Steady := by
    intro kind
    cases kind <;> decide
  obtain ⟨last, one, two, -, -⟩ := serve_interleaved s steady turns (by decide) (by decide) .one
  exact ⟨last, one, two, by decide +kernel, by decide +kernel⟩

end Session
end Roadway
