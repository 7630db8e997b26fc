import Roadway.Traffic.Walk

/-!
# Walks as chains of crossings

A walk is a chain of crossings, each from the end of one lane onto the next, followed
either by an end of its own accord or by the hold after the greatest number of
crossings. What one crossing keeps, a chain of any length keeps; in this way the lane
reached admits the entity, and the route position reached lies on the route.

A walk leaves lanes behind one by one, and these determine the junctions crossed. Crossings
are deterministic, so a walk along a trail goes on from where the trail leads.

## Main definitions

* `Walker.Crosses`, `Walker.Halts` — what one step of a walk can do.
* `Walker.Path` — a chain of crossings.
* `Walker.lanesLeft`, `Walker.Trail` — the lanes that a walk or a chain leaves behind.
* `Walker.walk_trail`, `Walker.walk_path` — every walk is a chain with an end.
* `Walker.Trail.walk_eq` — a walk goes on from the end of a trail.
* `Network.setOut` — the walker with which a move begins.
* `Network.admitted_of_advance` — where an entity is after a walk, it is admitted.
-/
namespace Roadway

/-- A position in the route, or the start of an empty one. -/
def Entity.RoutePosition {α : Type} (e : Entity α) (position : Nat) : Prop :=
  position = 0 ∨ position < e.route.length

namespace Network
variable {α : Type} {net : Network α}

theorem routePosition_of_onward {e : Entity α} {edge following : Fin net.edges.size}
    {position next : Nat} (h : net.onward e edge position = .enter following next) :
    next = position ∨ next < e.route.length := by
  unfold onward at h
  split at h
  · split at h
    · next index _ name hname =>
      split at h
      · cases h
        exact .inr (List.getElem?_eq_some_iff.1 hname).1
      · cases h
    · cases h
  · split at h
    · cases h; exact .inl rfl
    · cases h

/-- An edge is entered on a lane of its own that admits the kind. -/
theorem admitted_of_entryLane? {edge : Fin net.edges.size} {index : Nat} {kind : Kind}
    {r : LaneRef net} (h : net.entryLane? edge index kind = some r) :
    r.edge = edge ∧ (net.lane r).allows kind = true := by
  unfold entryLane? at h
  dsimp only at h
  split at h
  · next hany =>
    obtain ⟨_, hallows⟩ := (Option.any_eq_true_iff_get _ _).1 hany
    unfold laneOn? at h
    split at h
    · cases h
      exact ⟨rfl, by simpa [lane] using hallows⟩
    · cases h
  · obtain ⟨i, hi, rfl⟩ := Option.map_eq_some_iff.1 h
    exact ⟨rfl, (Array.findFinIdx?_eq_some_iff.1 hi).1⟩

/-- An edge is entered just if one of its lanes admits the kind. -/
theorem isSome_entryLane? (edge : Fin net.edges.size) (index : Nat) (kind : Kind) :
    (net.entryLane? edge index kind).isSome = (net.edgeAt edge).admits kind := by
  unfold entryLane?
  dsimp only
  split
  · next hany =>
    obtain ⟨known, hallows⟩ := (Option.any_eq_true_iff_get _ _).1 hany
    have hlt : min index ((net.edgeAt edge).lanes.size - 1) < (net.edgeAt edge).lanes.size := by
      simpa using known
    have admits : (net.edgeAt edge).admits kind = true :=
      Array.any_eq_true.2 ⟨_, hlt, by simpa using hallows⟩
    rw [laneOn?, dif_pos hlt, admits, Option.isSome_some]
  · rw [Option.isSome_map, Array.isSome_findFinIdx?, Edge.admits]

/-- An entity that chooses its way by itself finds one just if a successor admits it. -/
theorem isSome_freeSuccessor? (edge : Fin net.edges.size) (kind : Kind) :
    (net.freeSuccessor? edge kind).isSome =
      (net.successors edge).any fun next => (net.edgeAt next).admits kind := by
  rw [freeSuccessor?, Bool.eq_iff_iff, List.any_eq_true]
  simp only [Option.orElse_eq_orElse, Option.orElse_eq_or, Option.isSome_or, List.head?_filter,
    List.find?_filter, Bool.or_eq_true, List.find?_isSome, decide_eq_true_eq]
  constructor
  · rintro (⟨next, leaves, admits, -⟩ | h)
    · exact ⟨next, leaves, admits⟩
    · exact h
  · exact .inr
end Network

namespace Walker
variable {α : Type} [Scalar α] {net : Network α}

/-- A crossing from past the end of a lane onto the lane entered next. -/
inductive Crosses (e : Entity α) (w : Walker net) : Walker net → Prop
  | enter {edge : Fin net.edges.size} {position : Nat} {entry : LaneRef net}
      (past : ¬ w.offset ≤ (net.lane w.lane).length)
      (onward : net.onward e w.lane.edge w.routePosition = .enter edge position)
      (entered : net.entryLane? edge w.lane.lane e.kind = some entry) :
      Crosses e w
        { lane := entry
          offset := w.offset - (net.lane w.lane).length
          routePosition := position
          junctions := w.junctions ++ [(net.edgeAt w.lane.edge).toJunction] }

/-- The end of a walk at a walker that crosses no further. -/
inductive Halts (e : Entity α) (w : Walker net) : Advance net → Prop
  | within (within : w.offset ≤ (net.lane w.lane).length) :
      Halts e w (.onLane w.lane w.offset w.routePosition w.junctions)
  | deadEnd (past : ¬ w.offset ≤ (net.lane w.lane).length)
      (stuck : net.onward e w.lane.edge w.routePosition = .deadEnd ∨
        ∃ edge position, net.onward e w.lane.edge w.routePosition = .enter edge position ∧
          net.entryLane? edge w.lane.lane e.kind = none) :
      Halts e w (.boundary w.lane w.junctions)
  | routeEnd (past : ¬ w.offset ≤ (net.lane w.lane).length)
      (last : net.onward e w.lane.edge w.routePosition = .routeEnd) :
      Halts e w .arrived

/-- One step of a walk halts it or crosses, as `next` says. -/
theorem next_cases (e : Entity α) (w : Walker net) :
    (∃ a, w.next e = .inl a ∧ Halts e w a) ∨ ∃ w', w.next e = .inr w' ∧ Crosses e w w' := by
  unfold next
  dsimp only
  split
  · next within => exact .inl ⟨_, rfl, .within within⟩
  · next past =>
    split
    · next last => exact .inl ⟨_, rfl, .routeEnd past last⟩
    · next dead => exact .inl ⟨_, rfl, .deadEnd past (.inl dead)⟩
    · next edge position onward =>
      split
      · next blocked =>
        exact .inl ⟨_, rfl, .deadEnd past (.inr ⟨edge, position, onward, blocked⟩)⟩
      · next entry entered => exact .inr ⟨_, rfl, .enter past onward entered⟩

/-- A chain of a number of crossings. -/
inductive Path (e : Entity α) : Nat → Walker net → Walker net → Prop
  | refl (w : Walker net) : Path e 0 w w
  | cross {n : Nat} {w w' w'' : Walker net} (first : Crosses e w w')
      (rest : Path e n w' w'') : Path e (n + 1) w w''

/-- What every crossing keeps, a path keeps. -/
theorem Path.invariant {e : Entity α} {P : Walker net → Prop}
    (keeps : ∀ w w', P w → Crosses e w w' → P w') {n : Nat} {w w' : Walker net}
    (path : Path e n w w') (hw : P w) : P w' := by
  induction path with
  | refl => exact hw
  | cross first _ ih => exact ih (keeps _ _ hw first)

/-- The lanes that a walk leaves behind, in order. -/
def lanesLeft (e : Entity α) : Nat → Walker net → List (LaneRef net)
  | 0, _ => []
  | n + 1, w =>
    match w.next e with
    | .inl _ => []
    | .inr w' => w.lane :: lanesLeft e n w'

/-- A chain of crossings, with the lanes that it leaves behind. -/
inductive Trail (e : Entity α) : List (LaneRef net) → Walker net → Walker net → Prop
  | refl (w : Walker net) : Trail e [] w w
  | cross {left : List (LaneRef net)} {w w' w'' : Walker net} (first : Crosses e w w')
      (rest : Trail e left w' w'') : Trail e (w.lane :: left) w w''

/-- A walk leaves its lanes behind on a trail to where it halts, or to where it is held at
the end of a lane because its crossings are used up. -/
theorem walk_trail (e : Entity α) (n : Nat) (w : Walker net) :
    ∃ w', Trail e (lanesLeft e n w) w w' ∧
      ((lanesLeft e n w).length < n ∧ Halts e w' (walk e n w) ∨
        (lanesLeft e n w).length = n ∧ walk e n w =
          .onLane w'.lane (net.lane w'.lane).length w'.routePosition w'.junctions) := by
  -- On the crossings left: without a halt every one of them is used.
  induction n generalizing w with
  | zero => exact ⟨w, .refl w, .inr ⟨rfl, rfl⟩⟩
  | succ n ih =>
    rcases next_cases e w with ⟨a, hnext, halts⟩ | ⟨w', hnext, crosses⟩
    · refine ⟨w, ?_⟩
      simp only [lanesLeft, walk, hnext]
      exact ⟨.refl w, .inl ⟨by simp, halts⟩⟩
    · obtain ⟨w'', trail, ended⟩ := ih w'
      refine ⟨w'', ?_⟩
      simp only [lanesLeft, walk, hnext, List.length_cons]
      refine ⟨.cross crosses trail, ?_⟩
      rcases ended with ⟨hlt, halts⟩ | ⟨heq, held⟩
      · exact .inl ⟨by omega, halts⟩
      · exact .inr ⟨by omega, held⟩

theorem Crosses.next_eq {e : Entity α} {w w' : Walker net} (crosses : Crosses e w w') :
    w.next e = .inr w' := by
  cases crosses with
  | enter past onward entered =>
    rw [next]
    simp only [if_neg past, onward, entered]

namespace Trail
variable {e : Entity α} {left : List (LaneRef net)} {w w' : Walker net}

theorem path (trail : Trail e left w w') : Path e left.length w w' := by
  induction trail with
  | refl w => exact .refl w
  | cross first _ ih => exact .cross first ih

/-- The junctions crossed are those at which the lanes left behind end. -/
theorem junctions (trail : Trail e left w w') :
    w'.junctions = w.junctions ++ left.map fun r => (net.edgeAt r.edge).toJunction := by
  induction trail with
  | refl w => simp
  | cross first _ ih =>
    cases first with
    | enter => simpa using ih

/-- A walk goes on from where a trail leads, with the crossings that are left. -/
theorem walk_eq (trail : Trail e left w w') (n : Nat) :
    walk e (left.length + n) w = walk e n w' := by
  induction trail with
  | refl w => simp
  | cross first _ ih =>
    rw [List.length_cons, Nat.add_right_comm, walk, first.next_eq]
    exact ih

/-- A walk leaves behind what a trail does, and what it leaves behind from there on. -/
theorem lanesLeft_eq (trail : Trail e left w w') (n : Nat) :
    lanesLeft e (left.length + n) w = left ++ lanesLeft e n w' := by
  induction trail with
  | refl w => simp
  | cross first _ ih =>
    rw [List.length_cons, Nat.add_right_comm, lanesLeft, first.next_eq]
    exact congrArg _ ih

end Trail

/-- A walk follows a path to where it halts, or to where it is held at the end of a
lane because its crossings are used up. -/
theorem walk_path (e : Entity α) (n : Nat) (w : Walker net) :
    ∃ k w', Path e k w w' ∧
      (k < n ∧ Halts e w' (walk e n w) ∨
        k = n ∧ walk e n w =
          .onLane w'.lane (net.lane w'.lane).length w'.routePosition w'.junctions) := by
  obtain ⟨w', trail, ended⟩ := walk_trail e n w
  exact ⟨_, w', trail.path, ended⟩

/-- A walker on a lane that admits the entity, at a position of its route. -/
structure Admitted (e : Entity α) (w : Walker net) : Prop where
  allows : (net.lane w.lane).allows e.kind = true
  routePosition : e.RoutePosition w.routePosition

theorem Admitted.crosses {e : Entity α} {w w' : Walker net} (h : Admitted e w)
    (crosses : Crosses e w w') : Admitted e w' := by
  cases crosses with
  | enter _ onward entered =>
    refine ⟨(Network.admitted_of_entryLane? entered).2, ?_⟩
    rcases Network.routePosition_of_onward onward with heq | hlt
    · simpa only [heq] using h.routePosition
    · exact .inr hlt

end Walker

namespace Network
variable {α : Type} [Scalar α] {net : Network α}

/-- An entity that is about to move over a distance. -/
def setOut (e : Entity α) (lane : LaneRef net) (offset distance : α) : Walker net :=
  ⟨lane, offset + Scalar.larger distance 0.0, e.routePosition, []⟩

theorem advance_eq (e : Entity α) (lane : LaneRef net) (offset distance : α) :
    net.advance e lane offset distance =
      Walker.walk e maxCrossings (setOut e lane offset distance) := rfl

/-- Wherever a walk from a lane that admits the entity leaves it on a lane, that lane
admits it and the route position lies on its route. -/
theorem admitted_of_advance {e : Entity α} {lane r : LaneRef net} {offset distance stop : α}
    {position : Nat} {junctions : List String}
    (allows : (net.lane lane).allows e.kind = true)
    (routePosition : e.RoutePosition e.routePosition)
    (h : net.advance e lane offset distance = .onLane r stop position junctions) :
    (net.lane r).allows e.kind = true ∧ e.RoutePosition position := by
  obtain ⟨k, w, path, hend⟩ := Walker.walk_path e maxCrossings (setOut e lane offset distance)
  have hw : Walker.Admitted e w :=
    path.invariant (fun _ _ hw crosses => hw.crosses crosses) ⟨allows, routePosition⟩
  rw [← advance_eq, h] at hend
  rcases hend with ⟨-, halts⟩ | ⟨-, held⟩
  · cases halts
    exact ⟨hw.allows, hw.routePosition⟩
  · cases held
    exact ⟨hw.allows, hw.routePosition⟩

end Network
end Roadway
