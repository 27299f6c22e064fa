import RichText.Render.Rule

/-!
# Render/Walk — the RTF of a tree

`Node.render` says what the RTF of a tree is: that of its children from left to right, up to the first
null among them, and then its own.  `Walk.run` computes it with a stack of frames, so that the depth
of a tree costs no stack of the machine.
-/

namespace RichText

/-! ## By recursion on the tree -/

/-- The children that are rendered: those before the first null. -/
def Node.shownChildren (children : List Node) : List Node :=
  children.takeWhile fun c => !c.isNull

namespace Node

mutual

/-- **The RTF of a tree.** -/
def render (fs : FileSystem) (context : RenderContext) : Node → Outcome Rendered
  | leaf l => rule fs context [] (leaf l)
  | branch b children metadata => do
    rule fs context (← renderAll fs context children) (branch b children metadata)
  | misfilled b value metadata =>
    match (misfilled b value metadata).children? with
    | none => Outcome.fail .misuse
    | some strays =>
      match shownChildren strays with
      | [] => rule fs context [] (misfilled b value metadata)
      | _ :: _ => Outcome.fail .noPart

/-- The RTF of every tree of a list up to the first null. -/
def renderAll (fs : FileSystem) (context : RenderContext) : List Node → Outcome (List Rendered)
  | [] => return []
  | n :: rest =>
    if n.isNull then return []
    else do
      let first ← render fs context n
      return first :: (← renderAll fs context rest)

end

end Node

/-! ## By a stack of frames -/

/-- A node that is being rendered: the children it still waits for, and what the others gave, last one
first. -/
structure Frame where
  node : Node
  pending : List Node
  done : List Rendered

namespace Frame

/-- The child that is next, and the frame that waits for the others; none after the last child and
at the first null. -/
def next? (f : Frame) : Option (Node × Frame) :=
  match f.pending with
  | [] => none
  | c :: rest => if c.isNull then none else some (c, { f with pending := rest })

end Frame

namespace Walk

mutual

/-- The steps a node takes at most. -/
def steps : Node → Nat
  | .leaf _ => 2
  | .branch _ children _ => 2 + stepsAll children
  | .misfilled _ value _ => 2 + 2 * (value.items?.getD []).length

/-- The steps a list of nodes takes at most. -/
def stepsAll : List Node → Nat
  | [] => 0
  | n :: rest => steps n + stepsAll rest

end

/-- The steps a stack takes at most. -/
def pendingSteps : List Frame → Nat
  | [] => 0
  | f :: rest => 1 + stepsAll f.pending + pendingSteps rest

theorem stepsAll_strays (values : List Value) :
    stepsAll (values.map fun v => .leaf (.stray v)) = 2 * values.length := by
  induction values with
  | nil => rfl
  | cons v rest ih =>
    simp only [List.map_cons, stepsAll, steps, ih, List.length_cons]
    omega

/-- **Going down leaves fewer steps**: a node takes more of them than its children. -/
theorem stepsAll_children {n : Node} {children : List Node} (h : n.children? = some children) :
    stepsAll children + 2 = steps n := by
  cases n with
  | leaf l =>
    cases h
    simp [steps, stepsAll]
  | branch b cs m =>
    cases h
    rw [steps, Nat.add_comm]
  | misfilled b value m =>
    obtain ⟨items, hi, rfl⟩ := Option.map_eq_some_iff.mp h
    rw [stepsAll_strays, steps, hi, Option.getD_some, Nat.add_comm]

theorem stepsAll_next {f g : Frame} {c : Node} (h : f.next? = some (c, g)) :
    stepsAll f.pending = steps c + stepsAll g.pending := by
  obtain ⟨node, pending, done⟩ := f
  cases pending with
  | nil => cases h
  | cons d rest =>
    simp only [Frame.next?] at h
    split at h
    · cases h
    · cases h
      rw [stepsAll]

/-- Run a stack whose top frame is `top`; `log` holds the notices written so far. -/
def run (fs : FileSystem) (context : RenderContext) (log : List Notice) (top : Frame)
    (below : List Frame) : Outcome Rendered :=
  match _hn : top.next? with
  | some (child, top) =>
    match _hc : child.children? with
    | none => ⟨log, .error .misuse⟩
    | some children => run fs context log ⟨child, children, []⟩ (top :: below)
  | none =>
    let own := top.node.rule fs context top.done.reverse
    match own.result with
    | .error e => ⟨log ++ own.log, .error e⟩
    | .ok r =>
      match below with
      | [] => ⟨log ++ own.log, .ok r⟩
      | parent :: rest =>
        run fs context (log ++ own.log) { parent with done := r :: parent.done } rest
termination_by pendingSteps (top :: below)
decreasing_by
  · have h1 := stepsAll_next _hn
    have h2 := stepsAll_children _hc
    simp only [pendingSteps]
    omega
  · simp only [pendingSteps]
    omega

/-- The RTF of a tree by a stack of frames. -/
def render (fs : FileSystem) (context : RenderContext) (root : Node) : Outcome Rendered :=
  match root.children? with
  | none => Outcome.fail .misuse
  | some children => run fs context [] ⟨root, children, []⟩ []

end Walk

end RichText
