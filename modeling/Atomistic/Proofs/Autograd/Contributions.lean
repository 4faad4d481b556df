import Atomistic.Proofs.Autograd.Images
import Atomistic.Proofs.Autograd.Passes

/-!
# What a pass adds

A pass adds a list of gradients to the leaves that its root feeds
(`Atomistic.Tape.Sound.backward_adds`).  If no backward rule looks at where its gradient is
stored, the list depends only on the nodes, on the node that produced the root and on the data
of the seed (`Atomistic.Tape.Blind.brings`): the gradients and the marks of tensors play no
part.
-/

namespace Atomistic

variable {D : Type}

/-- A gradient that was there, if any, with new ones added in order. -/
def TensorData.total [TensorData D] : Option D → List D → Except TensorError (Option D)
  | old, [] => .ok old
  | none, new :: rest => total (some new) rest
  | some old, new :: rest => do total (some (← TensorData.add old new)) rest

private theorem TensorData.total_append [TensorData D] (first second : List D) :
    ∀ {old middle : Option D}, total old first = .ok middle →
      total old (first ++ second) = total middle second := by
  induction first with
  | nil =>
      intro old middle summed
      rw [List.nil_append, Except.ok.inj summed]
  | cons new rest ih =>
      intro old middle summed
      cases old with
      | none => exact ih summed
      | some old =>
          obtain ⟨sum, added, rested⟩ := ok_of_bind summed
          rw [List.cons_append, total, added]
          exact ih rested

/-- The rule of a node does not look at where its gradient is stored. -/
def Node.Blind (node : Node D) : Prop :=
  ∀ first second : View D, first.data = second.data →
    (node.rule node.context first).map (List.map (Option.map fun outcome => outcome.data)) =
      (node.rule node.context second).map (List.map (Option.map fun outcome => outcome.data))

namespace Tape

variable {tape later : Tape D} {root : Tensor D}

/-- No rule on the tape looks at where its gradient is stored. -/
def Blind (tape : Tape D) : Prop :=
  ∀ (number : Nat) (node : Node D), tape.nodes[number]? = some node → node.Blind

private theorem Blind.of_nodes (blind : tape.Blind) (nodes : later.nodes = tape.nodes) :
    later.Blind := by
  intro number node stored
  rw [nodes] at stored
  exact blind number node stored

variable [TensorData D]

/-- The graph of some nodes on data, wherever it is stored. -/
def contents (nodes : Array (Node D)) : Graph D (Tensor D) TensorError where
  edges number := (nodes[number]?.map Node.edges).getD []
  rule number gradient :=
    match nodes[number]? with
    | none => .ok []
    | some node => (node.rule node.context ⟨gradient, .ofTensor 0⟩).map
        (List.map (Option.map fun outcome => outcome.data))
  meet _ old new := TensorData.add old new
  accept leaf gradient :=
    if TensorData.shape gradient ≠ TensorData.shape leaf.data then
      .error (.shapeMismatch (TensorData.shape leaf.data) (TensorData.shape gradient))
    else TensorData.convert gradient (TensorData.dtype leaf.data) (TensorData.device leaf.data)
  miscount number expected actual :=
    .backward ((nodes[number]?.map Node.name).getD "") (.gradientCount expected actual)

private theorem Blind.image (blind : tape.Blind) :
    tape.graph.Image (fun view => view.data) (contents tape.nodes) where
  edges _ := rfl
  rule number gradient := by
    simp only [graph, contents]
    cases stored : tape.nodes[number]? with
    | none => rfl
    | some node =>
        dsimp only
        rw [← blind number node stored gradient ⟨gradient.data, .ofTensor 0⟩ rfl]
        cases node.rule node.context gradient with
        | error fault => rfl
        | ok outcomes =>
            refine congrArg Except.ok (List.ext_getElem? fun slot => ?_)
            simp only [List.getElem?_map, List.getElem?_mapIdx]
            rcases outcomes[slot]? with _ | _ | outcome <;> rfl
  meet number old new := by
    simp only [graph, contents]
    cases TensorData.add old.data new.data <;> rfl
  accept leaf gradient := accept_data tape.sweeps leaf gradient
  miscount _ _ _ := rfl

/-- What a pass adds to the gradients of leaves, in order. -/
def brings (tape : Tape D) (root : Tensor D) (seed : View D) : List (Tensor D × D) :=
  match (tape.state root.number).gradFn with
  | none =>
    match accept tape.sweeps root seed with
    | .error _ => []
    | .ok accepted => [(root, accepted.data)]
  | some node => (tape.graph.sweep node seed).2.delivered.map fun entry => (entry.1, entry.2.data)

/-- **A pass depends only on the nodes and on the data of its seed.** -/
theorem Blind.brings (blind : tape.Blind) (nodes : later.nodes = tape.nodes)
    (gradFn : (later.state root.number).gradFn = (tape.state root.number).gradFn)
    {seed again : View D} (equal : again.data = seed.data) :
    (later.backward root again).1 = (tape.backward root seed).1 ∧
      later.brings root again = tape.brings root seed := by
  cases produced : (tape.state root.number).gradFn with
  | none =>
      have first := accept_data tape.sweeps root seed
      have second := accept_data later.sweeps root again
      rw [equal, ← first] at second
      rw [Tape.backward, Tape.backward, Tape.brings, Tape.brings, gradFn, produced]
      dsimp only
      revert second
      rcases accept later.sweeps root again with fault | taken
      · rcases accept tape.sweeps root seed with other | accepted
        · rintro ⟨⟩
          exact ⟨rfl, rfl⟩
        · rintro ⟨⟩
      · rcases accept tape.sweeps root seed with other | accepted
        · rintro ⟨⟩
        · intro same
          exact ⟨rfl, congrArg (fun data => [(root, data)]) (Except.ok.inj same)⟩
  | some node =>
      have first := blind.image.sweep node seed
      have second := (blind.of_nodes nodes).image.sweep node again
      rw [nodes, equal, first] at second
      obtain ⟨result, swept⟩ := Prod.ext_iff.mp second
      have delivered := congrArg Sweep.delivered swept
      rw [Tape.backward, Tape.backward, Tape.brings, Tape.brings, gradFn, produced]
      exact ⟨result.symm, delivered.symm⟩

/-- The gradients of all tensors, after new ones have been added to some. -/
def Adds (before after : Tape D) (entries : List (Tensor D × D)) : Prop :=
  ∀ number, TensorData.total ((before.state number).grad.map fun grad => grad.data)
      ((entries.filter fun entry => entry.1.number = number).map Prod.snd) =
    .ok ((after.state number).grad.map fun grad => grad.data)

variable {before middle after : Tape D} {entries more : List (Tensor D × D)}

private theorem Adds.of_state (same : ∀ number, after.state number = before.state number) :
    Adds before after [] := fun number => by
  rw [same]
  rfl

/-- What is added one after the other is added together. -/
theorem Adds.trans (first : Adds before middle entries) (second : Adds middle after more) :
    Adds before after (entries ++ more) := fun number => by
  rw [List.filter_append, List.map_append, TensorData.total_append _ _ (first number)]
  exact second number

end Tape

private theorem Dense.Valid.add_ok {old new : Dense} (valid : new.Valid)
    (same : TensorData.kind old = TensorData.kind new) : ∃ sum, old.add new = .ok sum := by
  obtain ⟨shape, dtype, device⟩ := Dense.kind_eq_iff.mp same
  have converted : new.convert old.dtype old.device = .ok new := by
    rw [dtype, device]
    exact valid.convert_self
  rw [Dense.add, if_neg (not_not.mpr shape), converted]
  exact ⟨_, rfl⟩

namespace Tape

variable {tape : Tape} {root leaf : Tensor}

/-- A delivered gradient is added to the one that its leaf holds. -/
theorem Sound.deliver_adds (sound : tape.Sound) (known : tape.Knows leaf) {gradient : View}
    (valid : gradient.data.Valid)
    (same : TensorData.kind gradient.data = TensorData.kind leaf.data) :
    Adds tape (tape.deliver leaf gradient) [(leaf, gradient.data)] := by
  intro number
  by_cases apart : number = leaf.number
  · subst apart
    rw [List.filter_cons_of_pos (by simp), List.filter_nil, Tape.deliver, state_setState,
      if_pos rfl]
    cases held : (tape.state leaf.number).grad with
    | none => rfl
    | some old =>
        have fits := (sound.fits leaf.number old held).2 _ known
        obtain ⟨sum, added⟩ := valid.add_ok (fits.trans same.symm)
        have summed : TensorData.add old.data gradient.data = .ok sum := added
        simp only [summed, List.map_cons, List.map_nil, Option.map_some, TensorData.total]
        rfl
  · rw [List.filter_cons_of_neg (by simpa using Ne.symm apart), List.filter_nil,
      deliver_state tape leaf gradient apart]
    rfl

private theorem Sound.deliverAll_adds (delivered : List (Tensor × View)) :
    ∀ {tape : Tape}, tape.Sound → (∀ entry ∈ delivered, tape.Knows entry.1 ∧
        entry.2.data.Valid ∧ TensorData.kind entry.2.data = TensorData.kind entry.1.data) →
      Adds tape (tape.deliverAll delivered)
        (delivered.map fun entry => (entry.1, entry.2.data)) := by
  induction delivered with
  | nil => exact fun _ _ => .of_state fun _ => rfl
  | cons entry rest ih =>
      intro tape sound fits
      obtain ⟨known, valid, same⟩ := fits entry List.mem_cons_self
      refine (sound.deliver_adds known valid same).trans (ih (sound.deliver known same) ?_)
      intro other member
      obtain ⟨other_known, others⟩ := fits other (List.mem_cons_of_mem _ member)
      exact ⟨other_known.place _, others⟩

/-- **A pass adds what it brings.** No sum of gradients fails, and nothing else changes a
gradient. -/
theorem Sound.backward_adds (sound : tape.Sound) (holds : tape.Holds Dense.Valid)
    (root_known : tape.Knows root) {seed : View} (valid : seed.data.Valid) :
    Adds tape (tape.backward root seed).2 (tape.brings root seed) := by
  have closed := Dense.kind_valid.toClosed
  rw [Tape.backward, brings]
  cases produced : (tape.state root.number).gradFn with
  | none =>
      cases taken : accept tape.sweeps root seed with
      | error fault => exact .of_state fun _ => rfl
      | ok accepted =>
          exact sound.counted.deliver_adds root_known (accept_allowed closed valid taken)
            (kind_accept taken)
  | some node =>
      refine sound.counted.deliverAll_adds _ fun entry member => ?_
      obtain ⟨known, kind⟩ := sound.delivered_fits node seed entry member
      have carried := (holds.graph_keeps closed).sweep_carries node valid
      exact ⟨known, carried.delivered entry member, kind⟩

end Tape

namespace Tensor

variable {workspace later : Workspace} {root : Tensor} {gradient again : Option Tensor}

/-- What a pass from a root adds to the gradients of leaves, in order; a pass that is refused
adds nothing. -/
def brings (root : Tensor) (gradient : Option Tensor) (workspace : Workspace) :
    List (Tensor × Dense) :=
  if (workspace.tape.state root.number).requiresGrad then
    match (root.seed gradient).exec workspace with
    | (.error _, _) => []
    | (.ok seed, middle) => middle.tape.brings root seed.toView
  else []

private theorem brings_untracked (untracked : ¬ workspace.Tracks root) :
    root.brings gradient workspace = [] :=
  if_neg untracked

/-- A tracked root brings what the sweep from it delivers. -/
theorem brings_tracked (tracked : workspace.Tracks root) : root.brings gradient workspace =
    match (root.seed gradient).exec workspace with
    | (.error _, _) => []
    | (.ok seed, middle) => middle.tape.brings root seed.toView :=
  if_pos tracked

/-- A pass adds to the gradients exactly what the root brings, whether it succeeds or fails. -/
theorem backward_adds (sound : workspace.tape.Sound) (holds : workspace.tape.Holds Dense.Valid)
    (root_known : workspace.tape.Knows root)
    (gradient_known : ∀ tensor ∈ gradient, workspace.tape.Knows tensor) :
    workspace.tape.Adds ((root.backward gradient).exec workspace).2.tape
      (root.brings gradient workspace) := by
  by_cases tracked : workspace.Tracks root
  · rw [exec_backward_tracked tracked, brings_tracked tracked]
    have within := @Run.seed_within Dense.Valid workspace Dense.kind_valid root gradient
      (fun holds => holds.knows root_known)
      fun holds tensor member => holds.knows (gradient_known tensor member)
    cases @seed_makes workspace root gradient with
    | failed _ ran gains =>
        rw [ran]
        exact .of_state gains.state
    | @made seed middle _ ran gains seed_known =>
        have extended := within.moved
        rw [ran] at extended ⊢
        have middle_holds : middle.tape.Holds Dense.Valid := extended.holds holds
        have started : workspace.tape.Adds middle.tape [] := .of_state gains.state
        exact started.trans ((gains.steps.sound sound).backward_adds middle_holds
          (gains.knows root_known) (middle_holds.knows seed_known))
  · rw [exec_backward_untracked tracked, brings_untracked tracked]
    exact .of_state fun _ => rfl

/-- **A pass ends as any pass from its root with an equal seed does**, and it adds the same
gradients, as long as the nodes are the same. -/
theorem backward_again (blind : workspace.tape.Blind)
    (nodes : later.tape.nodes = workspace.tape.nodes)
    (gradFn : (later.tape.state root.number).gradFn = (workspace.tape.state root.number).gradFn)
    (tracked : workspace.Tracks root) (still : later.Tracks root)
    (equal : (again.map fun tensor => tensor.data) = gradient.map fun tensor => tensor.data) :
    ((root.backward again).exec later).1 = ((root.backward gradient).exec workspace).1 ∧
      root.brings again later = root.brings gradient workspace := by
  have first := @seed_makes workspace root gradient
  have second := @seed_makes later root again
  rw [equal] at second
  rw [exec_backward_tracked tracked, exec_backward_tracked still, brings_tracked tracked,
    brings_tracked still]
  cases first with
  | @failed fault _ given ran _ =>
      cases second with
      | @failed other _ failed rerun _ =>
          rw [ran, rerun, Except.error.inj (failed.symm.trans given)]
          exact ⟨rfl, rfl⟩
      | made made => cases given.symm.trans made
  | @made seed middle given ran gains _ =>
      cases second with
      | failed failed => cases given.symm.trans failed
      | @made other last made rerun more _ =>
          have same : other.data = seed.data := Except.ok.inj (made.symm.trans given)
          have middle_blind : middle.tape.Blind := blind.of_nodes gains.nodes
          have produced : (last.tape.state root.number).gradFn =
              (middle.tape.state root.number).gradFn := by
            rw [more.state, gains.state, gradFn]
          rw [ran, rerun]
          exact middle_blind.brings (more.nodes.trans (nodes.trans gains.nodes.symm)) produced same

end Tensor

end Atomistic
