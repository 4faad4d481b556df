import Atomistic.Proofs.Autograd.Visits
import Atomistic.Proofs.Results

/-!
# What a sweep carries

When rules, meetings and leaves make gradients of some kind from gradients of that
kind, a sweep that starts with such a gradient carries and delivers no others, also
when it fails (`Atomistic.Graph.Keeps.sweep_carries`).
-/

namespace Atomistic

variable {Gradient Leaf Fault : Type}

/-- Gradients of a kind are made from gradients of that kind. -/
structure Graph.Keeps (graph : Graph Gradient Leaf Fault) (allowed : Gradient → Prop) : Prop where
  rule : ∀ {node gradient gradients}, allowed gradient → graph.rule node gradient = .ok gradients →
    ∀ {new}, some new ∈ gradients → allowed new
  meet : ∀ {node old new total}, allowed old → allowed new →
    graph.meet node old new = .ok total → allowed total
  accept : ∀ {leaf raw gradient}, allowed raw → graph.accept leaf raw = .ok gradient →
    allowed gradient

/-- All gradients that wait or were delivered are of a kind. -/
structure Sweep.Carries (allowed : Gradient → Prop) (sweep : Sweep Gradient Leaf) : Prop where
  waiting : ∀ node gradient, sweep.pending.get? node = some gradient → allowed gradient
  delivered : ∀ entry ∈ sweep.delivered, allowed entry.2

private theorem Sweep.Carries.arrive {allowed : Gradient → Prop} {sweep : Sweep Gradient Leaf}
    (carries : sweep.Carries allowed) (node : Nat) : (sweep.arrive node).Carries allowed := by
  rw [Sweep.arrive]
  split
  · exact carries
  · exact ⟨carries.waiting, carries.delivered⟩

namespace Graph

variable {graph : Graph Gradient Leaf Fault} {allowed : Gradient → Prop}

private theorem Keeps.gather (keeps : graph.Keeps allowed) {sweep : Sweep Gradient Leaf}
    (carries : sweep.Carries allowed) (node : Nat) {gradient : Gradient} (new : allowed gradient) :
    (graph.gather sweep node gradient).Leaves (Sweep.Carries allowed) (Sweep.Carries allowed) := by
  have stored {total : Gradient} (fine : allowed total) :
      Sweep.Carries allowed { sweep with pending := sweep.pending.set node total } := by
    refine ⟨fun other waiting present => ?_, carries.delivered⟩
    rw [Table.get?_set] at present
    split at present
    · exact Option.some.inj present ▸ fine
    · exact carries.waiting other waiting present
  rw [Graph.gather]
  cases held : sweep.pending.get? node with
  | none => exact stored new
  | some old =>
      exact (Sweep.attempt_leaves (graph.meet node old gradient) carries).bind fun total met =>
        stored (keeps.meet (carries.waiting node old held) new met)

private theorem Keeps.follow (keeps : graph.Keeps allowed) {sweep : Sweep Gradient Leaf}
    (carries : sweep.Carries allowed) (edge : Edge Leaf) {gradient : Option Gradient}
    (new : ∀ value ∈ gradient, allowed value) :
    (graph.follow sweep edge gradient).Leaves (Sweep.Carries allowed) (Sweep.Carries allowed) := by
  cases edge with
  | untracked => exact carries
  | leaf leaf =>
      cases gradient with
      | none => exact carries
      | some gradient =>
          refine (Sweep.attempt_leaves (graph.accept leaf gradient) carries).bind
            fun taken accepted => ⟨carries.waiting, fun entry listed => ?_⟩
          rcases List.mem_append.mp listed with old | last
          · exact carries.delivered entry old
          · rw [List.mem_singleton.mp last]
            exact keeps.accept (new gradient rfl) accepted
  | node target =>
      cases gradient with
      | none => exact carries.arrive target
      | some gradient =>
          exact (keeps.gather carries target (new gradient rfl)).bind fun _ after =>
            after.arrive target

private theorem Keeps.followAll (keeps : graph.Keeps allowed) (edges : List (Edge Leaf)) :
    ∀ {sweep : Sweep Gradient Leaf} (gradients : List (Option Gradient)),
      sweep.Carries allowed → (∀ value, some value ∈ gradients → allowed value) →
      (graph.followAll edges gradients sweep).Leaves (Sweep.Carries allowed)
        (Sweep.Carries allowed) := by
  induction edges with
  | nil =>
      intro sweep gradients carries _
      exact carries
  | cons edge rest ih =>
      intro sweep gradients carries new
      have first : ∀ value ∈ gradients.head?.join, allowed value := by
        intro value present
        refine new value (List.mem_of_mem_head? ?_)
        exact Option.join_eq_some_iff.mp present
      exact (keeps.follow carries edge first).bind fun _ after =>
        ih gradients.tail after fun value member => new value (List.mem_of_mem_tail member)

private theorem Keeps.passOn (keeps : graph.Keeps allowed) {node : Nat} {gradient : Option Gradient}
    (fine : ∀ value ∈ gradient, allowed value) {gradients : List (Option Gradient)}
    (passed : graph.passOn node gradient = .ok gradients) :
    ∀ value, some value ∈ gradients → allowed value := by
  cases gradient with
  | none =>
      intro value member
      rw [Graph.passOn] at passed
      cases passed
      cases member
  | some gradient =>
      intro value member
      obtain ⟨made, ruled, kept⟩ := ok_of_bind passed
      obtain ⟨_, same⟩ := ok_of_check kept
      cases same
      exact keeps.rule (fine gradient rfl) ruled member

private theorem Keeps.visit (keeps : graph.Keeps allowed) {sweep : Sweep Gradient Leaf}
    (carries : sweep.Carries allowed) (node : Nat) :
    (graph.visit sweep node).Leaves (Sweep.Carries allowed) (Sweep.Carries allowed) := by
  have entered : Sweep.Carries allowed { sweep with
      pending := sweep.pending.erase node
      visited := sweep.visited ++ [node] } := by
    refine ⟨fun other gradient present => ?_, carries.delivered⟩
    rw [Table.get?_erase] at present
    split at present
    · cases present
    · exact carries.waiting other gradient present
  rw [Graph.visit]
  exact (Sweep.attempt_leaves _ entered).bind fun gradients passed =>
    keeps.followAll (graph.edges node) gradients entered
      (keeps.passOn (fun value present => carries.waiting node value present) passed)

private theorem Keeps.drain (keeps : graph.Keeps allowed) (fuel : Nat) :
    ∀ {sweep : Sweep Gradient Leaf}, sweep.Carries allowed →
      (graph.drain fuel sweep).Leaves (Sweep.Carries allowed) (Sweep.Carries allowed) := by
  induction fuel with
  | zero =>
      intro sweep carries
      exact carries
  | succ fuel ih =>
      intro sweep carries
      rw [Graph.drain]
      cases next : sweep.ready with
      | nil => exact carries
      | cons node rest =>
          have entered : Sweep.Carries allowed { sweep with ready := rest } :=
            ⟨carries.waiting, carries.delivered⟩
          exact (keeps.visit entered node).bind fun _ after => ih after

/-- **Sweeps carry gradients of one kind.** -/
theorem Keeps.sweep_carries (keeps : graph.Keeps allowed) (root : Nat) {seed : Gradient}
    (fine : allowed seed) : (graph.sweep root seed).2.Carries allowed := by
  have started : (graph.start root seed).Carries allowed := by
    refine ⟨fun node gradient present => ?_, fun entry member => absurd member List.not_mem_nil⟩
    rw [Graph.start, Table.get?_singleton] at present
    split at present
    · exact Option.some.inj present ▸ fine
    · cases present
  rw [sweep_snd]
  exact (keeps.drain _ started).state fun _ carries => carries

end Graph

end Atomistic
