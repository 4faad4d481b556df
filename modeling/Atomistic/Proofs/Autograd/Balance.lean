import Atomistic.Proofs.Autograd.Paths
import Atomistic.Proofs.Autograd.Visits
import Atomistic.Proofs.Results

/-!
# What a sweep carries

When gradients are read as elements of a commutative monoid in which the rules of all
nodes that a root reaches are additive, a sweep loses nothing on the way: what it has
delivered to some leaves and what the paths from the nodes where gradients wait would
still bring to them add up to the same at any time.  A sweep that succeeds has therefore
delivered to them what all paths from the root make of the seed
(`Atomistic.Graph.Reading.sweep_delivers`).
-/

namespace Atomistic

namespace Graph

variable {Gradient Leaf Fault : Type}

/-- Gradients of one kind as elements of a monoid, in which each slot of each node that a
root reaches has an additive map that its rule computes.  No gradient counts as zero. -/
structure Reading (graph : Graph Gradient Leaf Fault) (root : Nat) (M : Type)
    [AddCommMonoid M] where
  valid : Gradient → Prop
  value : Gradient → M
  maps : Nat → Nat → M →+ M
  rule : ∀ node ∈ graph.reached root, ∀ gradient passed, valid gradient →
    graph.rule node gradient = .ok passed → ∀ slot < (graph.edges node).length,
      (∀ outcome, passed.getD slot none = some outcome → valid outcome) ∧
        (passed.getD slot none).elim 0 value = maps node slot (value gradient)
  meet : ∀ node old new total, valid old → valid new → graph.meet node old new = .ok total →
    valid total ∧ value total = value old + value new
  accept : ∀ node ∈ graph.reached root, ∀ leaf gradient taken, .leaf leaf ∈ graph.edges node →
    valid gradient → graph.accept leaf gradient = .ok taken →
      valid taken ∧ value taken = value gradient

namespace Reading

variable {graph : Graph Gradient Leaf Fault} {M : Type} [AddCommMonoid M] {root : Nat}
  (reading : graph.Reading root M) (wanted : Leaf → Bool)

/-- The reading of a gradient that may be missing. -/
def amount (gradient : Option Gradient) : M := gradient.elim 0 reading.value

/-- What all paths that start with an edge bring to some leaves. -/
def brings (edge : Edge Leaf) : M →+ M := graph.transfer reading.maps wanted edge

/-- What the waiting gradients would still bring to some leaves. -/
def waiting (pending : Table Gradient) : M :=
  ∑ node ∈ graph.reached root,
    reading.brings wanted (.node node) (reading.amount (pending.get? node))

/-- What some leaves have got. -/
def delivered (entries : List (Leaf × Gradient)) : M :=
  ((entries.filter fun entry => wanted entry.1).map fun entry => reading.value entry.2).sum

/-- The gradients that wait and those that were delivered are valid, and they make a
total. -/
structure Balanced (total : M) (sweep : Sweep Gradient Leaf) : Prop where
  valid : ∀ node gradient, sweep.pending.get? node = some gradient → reading.valid gradient
  taken : ∀ entry ∈ sweep.delivered, reading.valid entry.2
  balance : reading.delivered wanted sweep.delivered + reading.waiting wanted sweep.pending = total

variable {reading wanted}

@[simp] private theorem amount_none : reading.amount none = 0 := rfl

@[simp] private theorem amount_some (gradient : Gradient) :
    reading.amount (some gradient) = reading.value gradient := rfl

/-- One term of a sum over reached nodes is changed. -/
theorem sum_change {target : Nat} (reached : target ∈ graph.reached root) {before after : Nat → M}
    {extra : M} (changed : after target = before target + extra)
    (same : ∀ node, node ≠ target → after node = before node) :
    ∑ node ∈ graph.reached root, after node =
      (∑ node ∈ graph.reached root, before node) + extra := by
  rw [← Finset.add_sum_erase _ after reached, ← Finset.add_sum_erase _ before reached, changed]
  have rest : ∑ node ∈ (graph.reached root).erase target, after node =
      ∑ node ∈ (graph.reached root).erase target, before node :=
    Finset.sum_congr rfl fun node member => same node (Finset.ne_of_mem_erase member)
  rw [rest, add_right_comm]

private theorem waiting_set {target : Nat} (reached : target ∈ graph.reached root)
    {pending : Table Gradient} {total : Gradient} {extra : M}
    (sum : reading.value total = reading.amount (pending.get? target) + extra) :
    reading.waiting wanted (pending.set target total) =
      reading.waiting wanted pending + reading.brings wanted (.node target) extra := by
  refine sum_change reached ?_ fun node other => ?_
  · rw [Table.get?_set, if_pos rfl, amount_some, sum, map_add]
  · rw [Table.get?_set, if_neg other]

private theorem waiting_erase {target : Nat} (reached : target ∈ graph.reached root)
    (pending : Table Gradient) :
    reading.waiting wanted pending =
      reading.waiting wanted (pending.erase target) +
        reading.brings wanted (.node target) (reading.amount (pending.get? target)) := by
  refine sum_change reached ?_ fun node other => ?_
  · rw [Table.get?_erase, if_pos rfl, amount_none, map_zero, zero_add]
  · rw [Table.get?_erase, if_neg other]

private theorem Balanced.arrive {total : M} {sweep : Sweep Gradient Leaf}
    (balanced : reading.Balanced wanted total sweep) (node : Nat) :
    reading.Balanced wanted total (sweep.arrive node) := by
  rw [Sweep.arrive]
  split <;> exact ⟨balanced.valid, balanced.taken, balanced.balance⟩

private theorem Balanced.setPending {total : M} {sweep : Sweep Gradient Leaf}
    (balanced : reading.Balanced wanted total sweep) {target : Nat}
    (reached : target ∈ graph.reached root) {gathered : Gradient} {extra : M}
    (valid : reading.valid gathered)
    (sum : reading.value gathered = reading.amount (sweep.pending.get? target) + extra) :
    reading.Balanced wanted (total + reading.brings wanted (.node target) extra)
      { sweep with pending := sweep.pending.set target gathered } where
  valid node gradient present := by
    rw [Table.get?_set] at present
    by_cases same : node = target
    · rw [if_pos same] at present
      rw [← Option.some.inj present]
      exact valid
    · rw [if_neg same] at present
      exact balanced.valid node gradient present
  taken := balanced.taken
  balance := by
    rw [waiting_set reached sum, ← add_assoc, balanced.balance]

private theorem Balanced.gather {total : M} {sweep : Sweep Gradient Leaf}
    (balanced : reading.Balanced wanted total sweep) {target : Nat}
    (reached : target ∈ graph.reached root) {gradient : Gradient}
    (valid : reading.valid gradient) :
    (graph.gather sweep target gradient).Leaves
      (reading.Balanced wanted
        (total + reading.brings wanted (.node target) (reading.value gradient)))
      (fun _ => True) := by
  rw [Graph.gather]
  cases held : sweep.pending.get? target with
  | none =>
      refine balanced.setPending reached valid ?_
      rw [held, amount_none, zero_add]
  | some old =>
      refine (Sweep.attempt_leaves (graph.meet target old gradient) trivial).bind
        fun sum met => ?_
      have both := reading.meet target old gradient sum (balanced.valid target old held) valid met
      refine balanced.setPending reached both.1 ?_
      rw [held, amount_some]
      exact both.2

/-- Using an edge adds what the paths that go on with it bring. -/
theorem Balanced.follow {total : M} {sweep : Sweep Gradient Leaf}
    (balanced : reading.Balanced wanted total sweep) {node : Nat}
    (visited : node ∈ graph.reached root) {edge : Edge Leaf}
    (member : edge ∈ graph.edges node)
    (reached : ∀ target, edge = .node target → target ∈ graph.reached root)
    {gradient : Option Gradient} (valid : ∀ given, gradient = some given → reading.valid given) :
    (graph.follow sweep edge gradient).Leaves
      (reading.Balanced wanted (total + reading.brings wanted edge (reading.amount gradient)))
      (fun _ => True) := by
  have unchanged : gradient = none → reading.Balanced wanted
      (total + reading.brings wanted edge (reading.amount gradient)) sweep := by
    intro missing
    rw [missing, amount_none, map_zero, add_zero]
    exact balanced
  cases edge with
  | untracked =>
      have nothing : reading.brings wanted .untracked = 0 := transfer_untracked
      rw [nothing, AddMonoidHom.zero_apply, add_zero]
      exact balanced
  | leaf leaf =>
      cases gradient with
      | none => exact unchanged rfl
      | some gradient =>
          refine (Sweep.attempt_leaves (graph.accept leaf gradient) trivial).bind
            fun taken accepted => ?_
          obtain ⟨taken_valid, value⟩ :=
            reading.accept node visited leaf gradient taken member (valid gradient rfl) accepted
          refine ⟨balanced.valid, fun entry listed => ?_, ?_⟩
          · rcases List.mem_append.mp listed with old | last
            · exact balanced.taken entry old
            · rw [List.mem_singleton.mp last]
              exact taken_valid
          have entry : reading.delivered wanted (sweep.delivered ++ [(leaf, taken)]) =
              reading.delivered wanted sweep.delivered +
                reading.brings wanted (.leaf leaf) (reading.value gradient) := by
            rw [delivered, List.filter_append, List.map_append, List.sum_append, brings,
              transfer_leaf, ← value]
            by_cases chosen : wanted leaf
            · simp [chosen, delivered]
            · simp [chosen, delivered]
          rw [entry, add_right_comm, balanced.balance]
          rfl
  | node target =>
      cases gradient with
      | none => exact (unchanged rfl).arrive target
      | some gradient =>
          exact (balanced.gather (reached target rfl) (valid gradient rfl)).bind
            fun _ after => after.arrive target

private theorem Balanced.followAll {node : Nat} (visited : node ∈ graph.reached root)
    (reached : ∀ target, .node target ∈ graph.edges node → target ∈ graph.reached root)
    (edges : List (Edge Leaf)) :
    ∀ {total : M} {sweep : Sweep Gradient Leaf} (gradients : List (Option Gradient)),
      (∀ edge ∈ edges, edge ∈ graph.edges node) →
      (∀ slot < edges.length, ∀ given, gradients.getD slot none = some given →
        reading.valid given) →
      reading.Balanced wanted total sweep →
      (graph.followAll edges gradients sweep).Leaves
        (reading.Balanced wanted (total + ∑ slot ∈ Finset.range edges.length,
          reading.brings wanted (edges.getD slot .untracked)
            (reading.amount (gradients.getD slot none))))
        (fun _ => True) := by
  induction edges with
  | nil =>
      intro total sweep gradients _ _ balanced
      rw [List.length_nil, Finset.sum_range_zero, add_zero]
      exact balanced
  | cons edge rest ih =>
      intro total sweep gradients members valid balanced
      have head : gradients.head?.join = gradients.getD 0 none := by
        cases gradients with
        | nil => rfl
        | cons gradient _ => cases gradient <;> rfl
      have tail : ∀ slot, gradients.tail.getD slot none = gradients.getD (slot + 1) none := by
        intro slot
        cases gradients <;> rfl
      have first := balanced.follow visited (members edge List.mem_cons_self)
        (fun target same => reached target (same ▸ members edge List.mem_cons_self))
        (valid 0 (Nat.zero_lt_succ _))
      rw [Graph.followAll, head]
      refine first.bind fun _ after => ?_
      have later := ih gradients.tail
        (fun other member => members other (List.mem_cons_of_mem _ member))
        (fun slot inside given present =>
          valid (slot + 1) (Nat.succ_lt_succ inside) given (tail slot ▸ present)) after
      rw [add_assoc] at later
      rw [List.length_cons, Finset.sum_range_succ', add_comm (∑ slot ∈ _, _)]
      simp only [tail] at later
      exact later

private theorem rule_of_passOn {node : Nat} {gradient : Gradient} {passed : List (Option Gradient)}
    (gave : graph.passOn node (some gradient) = .ok passed) :
    graph.rule node gradient = .ok passed := by
  obtain ⟨middle, ruled, checked⟩ := ok_of_bind gave
  obtain ⟨_, same⟩ := ok_of_check checked
  rw [ruled, Except.ok.inj same]

/-- A visit keeps the balance: what waited for the node goes on along its edges. -/
theorem Balanced.visit (descending : graph.Descending) {total : M} {sweep : Sweep Gradient Leaf}
    (balanced : reading.Balanced wanted total sweep) {node : Nat}
    (reached : node ∈ graph.reached root) :
    (graph.visit sweep node).Leaves (reading.Balanced wanted total) (fun _ => True) := by
  have targets_reached : ∀ target, .node target ∈ graph.edges node → target ∈ graph.reached root :=
    fun target edge => (Graph.mem_reached descending).mpr
      (((Graph.mem_reached descending).mp reached).tail (Graph.leads_of_mem_edges edge))
  have split := balanced.balance
  rw [waiting_erase reached, ← add_assoc] at split
  have entered : reading.Balanced wanted
      (reading.delivered wanted sweep.delivered +
        reading.waiting wanted (sweep.pending.erase node))
      { sweep with
        pending := sweep.pending.erase node
        visited := sweep.visited ++ [node] } := by
    refine ⟨fun other gradient present => ?_, balanced.taken, rfl⟩
    rw [Table.get?_erase] at present
    split at present
    · cases present
    · exact balanced.valid other gradient present
  rw [Graph.visit]
  refine (Sweep.attempt_leaves (graph.passOn node (sweep.pending.get? node)) trivial).bind
    fun passed gave => ?_
  have passes : (∀ slot < (graph.edges node).length, ∀ given,
        passed.getD slot none = some given → reading.valid given) ∧
      ∑ slot ∈ Finset.range (graph.edges node).length,
        reading.brings wanted ((graph.edges node).getD slot .untracked)
          (reading.amount (passed.getD slot none)) =
        reading.brings wanted (.node node) (reading.amount (sweep.pending.get? node)) := by
    cases held : sweep.pending.get? node with
    | none =>
        rw [held] at gave
        cases gave
        refine ⟨fun slot _ given present => by simp at present, ?_⟩
        simp
    | some gradient =>
        rw [held] at gave
        have rule := reading.rule node reached gradient passed (balanced.valid node gradient held)
          (rule_of_passOn gave)
        refine ⟨fun slot inside => (rule slot inside).1, ?_⟩
        rw [brings, transfer_node descending]
        refine Finset.sum_congr rfl fun slot member => ?_
        rw [amount_some, ← (rule slot (Finset.mem_range.mp member)).2]
        rfl
  have all := entered.followAll reached targets_reached (graph.edges node) passed
    (fun _ member => member) passes.1
  rw [passes.2, split] at all
  exact all

private theorem Balanced.drain (descending : graph.Descending) {total : M} (fuel : Nat) :
    ∀ {visited : List Nat} {sweep : Sweep Gradient Leaf},
      reading.Balanced wanted total sweep → sweep.Settled graph root visited →
      (graph.drain fuel sweep).Leaves (reading.Balanced wanted total) (fun _ => True) := by
  induction fuel with
  | zero =>
      intro visited sweep balanced _
      exact balanced
  | succ fuel ih =>
      intro visited sweep balanced settled
      rw [Graph.drain]
      cases next : sweep.ready with
      | nil => exact balanced
      | cons node rest =>
          have entered : reading.Balanced wanted total { sweep with ready := rest } :=
            ⟨balanced.valid, balanced.taken, balanced.balance⟩
          have reached : node ∈ graph.reached root := settled.reached node (by simp [next])
          have step := (settled.visit descending next).and (entered.visit descending reached)
          exact (step.weaken (fun _ both => both) (fun _ _ => trivial)).bind
            fun _ both => ih both.2 both.1

private theorem start_balanced (descending : graph.Descending) {seed : Gradient}
    (valid : reading.valid seed) :
    reading.Balanced wanted (reading.brings wanted (.node root) (reading.value seed))
      (graph.start root seed) := by
  have reached : root ∈ graph.reached root :=
    (Graph.mem_reached descending).mpr Relation.ReflTransGen.refl
  refine ⟨fun node gradient present => ?_, List.forall_mem_nil _, ?_⟩
  · rw [Graph.start, Table.get?_singleton] at present
    split at present
    · rw [← Option.some.inj present]
      exact valid
    · cases present
  · have waits : reading.waiting wanted (graph.start root seed).pending =
        reading.brings wanted (.node root) (reading.value seed) := by
      refine (Finset.sum_eq_single_of_mem root reached fun node _ other => ?_).trans ?_
      · rw [Graph.start, Table.get?_singleton, if_neg other, amount_none, map_zero]
      · rw [Graph.start, Table.get?_singleton, if_pos rfl, amount_some]
    rw [waits]
    exact zero_add _

/-- **Nothing is lost.** A sweep that succeeds has delivered to any leaves what all
paths from the root to them make of the seed, in valid gradients. -/
theorem sweep_delivers (descending : graph.Descending) {seed : Gradient}
    (valid : reading.valid seed) (success : (graph.sweep root seed).1 = .ok ()) :
    (∀ entry ∈ (graph.sweep root seed).2.delivered, reading.valid entry.2) ∧
    reading.delivered wanted (graph.sweep root seed).2.delivered =
      reading.brings wanted (.node root) (reading.value seed) := by
  have started : reading.Balanced wanted
      (reading.brings wanted (.node root) (reading.value seed)) (graph.start root seed) :=
    start_balanced descending valid
  have run := started.drain descending (graph.survey root).reached.length
    (Sweep.start_settled descending root seed)
  rw [drain_of_sweep_ok success] at run
  have final : reading.Balanced wanted
      (reading.brings wanted (.node root) (reading.value seed)) (graph.sweep root seed).2 := run
  -- nothing waits any more: gradients wait only at nodes that are still to be visited
  obtain ⟨settled, empty⟩ := descending.sweep_settled success
  have nothing : reading.waiting wanted (graph.sweep root seed).2.pending = 0 := by
    refine Finset.sum_eq_zero fun node reached => ?_
    cases held : (graph.sweep root seed).2.pending.get? node with
    | none => rw [amount_none, map_zero]
    | some gradient =>
        have unvisited := (settled.waiting node (by rw [held]; rfl)).2
        exact absurd (settled.complete descending empty reached) unvisited
  have balance := final.balance
  rw [nothing, add_zero] at balance
  exact ⟨final.taken, balance⟩

end Reading

end Graph

end Atomistic
