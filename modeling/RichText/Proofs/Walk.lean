import RichText.Render.Walk

/-!
# Proofs/Walk — the stack of frames computes the recursion

    ⟨top frame, frames below⟩ ──finish──▸ the RTF of the top node ──resume──▸ the RTF of the root

A frame owes the RTF of the children it waits for and of its own node (`Frame.finish`); a stack owes
that of its frames, from the top one down (`Walk.resume`).  Going down to a child (`finish_next`)
and going back up leave what the stack owes as it is, so the loop gives just that (`run_eq`): for a
stack of one fresh frame, the RTF of its node by recursion.
-/

namespace RichText

/-! ## Outcomes behind notices -/

namespace Outcome

variable {α β : Type}

/-- An outcome behind notices that were written before it. -/
def behind (log : List Notice) (x : Outcome α) : Outcome α := ⟨log ++ x.log, x.result⟩

@[simp] theorem behind_nil (x : Outcome α) : x.behind [] = x := rfl

theorem behind_behind (l m : List Notice) (x : Outcome α) :
    (x.behind m).behind l = x.behind (l ++ m) := by
  rw [behind, behind, behind, List.append_assoc]

/-- Going on with a result: the notices of the first step come first. -/
theorem bind_of_ok {x : Outcome α} {a : α} (h : x.result = .ok a) (f : α → Outcome β) :
    x >>= f = (f a).behind x.log := by
  obtain ⟨log, result⟩ := x
  obtain rfl : result = .ok a := h
  rfl

/-- Nothing goes on behind a failure. -/
theorem bind_of_error {x : Outcome α} {e : Failure} (h : x.result = .error e)
    (f : α → Outcome β) : x >>= f = ⟨x.log, .error e⟩ := by
  obtain ⟨log, result⟩ := x
  obtain rfl : result = .error e := h
  rfl

end Outcome

variable (fs : FileSystem) (context : RenderContext)

/-! ## The recursion, one equation for all nodes -/

namespace Node

/-- The children of a list that are rendered, from left to right. -/
theorem renderAll_eq_mapM (children : List Node) :
    renderAll fs context children = (shownChildren children).mapM (render fs context) := by
  induction children with
  | nil => rfl
  | cons c rest ih =>
    rw [renderAll, shownChildren, List.takeWhile_cons]
    cases hc : c.isNull with
    | true => rfl
    | false =>
      rw [Bool.not_false, if_pos rfl, if_neg Bool.false_ne_true, List.mapM_cons, ih]
      rfl

/-- Strays have no RTF: the first one that is not null ends the rendering. -/
theorem renderAll_strays (values : List Value) :
    renderAll fs context (values.map fun v => leaf (.stray v))
      = match shownChildren (values.map fun v => leaf (.stray v)) with
        | [] => pure []
        | _ :: _ => Outcome.fail .noPart := by
  cases values with
  | nil => rfl
  | cons v rest =>
    rw [List.map_cons, renderAll, shownChildren, List.takeWhile_cons]
    cases (leaf (.stray v)).isNull <;> rfl

/-- **The RTF of a node is that of its children and then its own**, for nodes of every kind. -/
theorem render_eq (n : Node) :
    render fs context n = match n.children? with
      | none => Outcome.fail .misuse
      | some children => (do n.rule fs context (← renderAll fs context children)) := by
  cases n with
  | leaf l => rfl
  | branch b children metadata => rw [render]; rfl
  | misfilled b value metadata =>
    rw [render]
    cases hc : (misfilled b value metadata).children? with
    | none => rfl
    | some strays =>
      obtain ⟨values, -, rfl⟩ := Option.map_eq_some_iff.mp hc
      dsimp only
      rw [renderAll_strays]
      cases shownChildren (values.map fun v => leaf (.stray v)) <;> rfl

end Node

/-! ## What frames and stacks owe -/

/-- What a frame owes: the RTF of the children it waits for, and then that of its node. -/
def Frame.finish (f : Frame) : Outcome Rendered := do
  f.node.rule fs context (f.done.reverse ++ (← Node.renderAll fs context f.pending))

/-- What a stack owes once the frame above it has given its RTF. -/
def Walk.resume : List Frame → Rendered → Outcome Rendered
  | [], r => pure r
  | parent :: below, r => do
    Walk.resume below (← Frame.finish fs context { parent with done := r :: parent.done })

namespace Frame

/-- A fresh frame owes the RTF of its node. -/
theorem finish_fresh {n : Node} {children : List Node} (h : n.children? = some children) :
    finish fs context ⟨n, children, []⟩ = n.render fs context := by
  rw [Node.render_eq, h]
  rfl

/-- A frame that waits for nothing owes the RTF of its node alone. -/
theorem finish_of_next?_eq_none {f : Frame} (h : f.next? = none) :
    f.finish fs context = f.node.rule fs context f.done.reverse := by
  obtain ⟨node, pending, done⟩ := f
  have hp : Node.renderAll fs context pending = pure [] := by
    cases pending with
    | nil => rfl
    | cons c rest =>
      cases hc : c.isNull with
      | true => rw [Node.renderAll, if_pos hc]
      | false => rw [next?.eq_def] at h; simp [hc] at h
  rw [finish, hp, pure_bind, List.append_nil]

/-- **Going down to a child**: its RTF is the next thing a frame owes. -/
theorem finish_next {f g : Frame} {c : Node} (h : f.next? = some (c, g)) :
    f.finish fs context
      = c.render fs context >>= fun r => finish fs context { g with done := r :: g.done } := by
  obtain ⟨node, pending, done⟩ := f
  cases pending with
  | nil => cases h
  | cons d rest =>
    rw [next?.eq_def] at h
    dsimp only at h
    split at h
    · cases h
    · next hd =>
      cases h
      simp only [finish, Node.renderAll, if_neg hd, bind_assoc, pure_bind, List.reverse_cons,
        List.append_assoc, List.cons_append, List.nil_append]

end Frame

/-! ## The loop -/

namespace Walk

/-- A round that goes down: the child's children are asked for before anything of it is rendered. -/
theorem run_down {log : List Notice} {top rest : Frame} {below : List Frame} {c : Node}
    (h : top.next? = some (c, rest)) :
    run fs context log top below = match c.children? with
      | none => ⟨log, .error .misuse⟩
      | some children => run fs context log ⟨c, children, []⟩ (rest :: below) := by
  rw [run]
  split
  · next child g hn =>
    obtain ⟨rfl, rfl⟩ : child = c ∧ g = rest := by simpa [hn] using h
    split <;> simp_all
  · next hn => rw [hn] at h; cases h

/-- A round that goes up: a finished node gives its RTF to the frame below. -/
theorem run_up {log : List Notice} {top : Frame} {below : List Frame} (h : top.next? = none) :
    run fs context log top below = match (top.finish fs context).result with
      | .error e => ⟨log ++ (top.finish fs context).log, .error e⟩
      | .ok r => match below with
        | [] => ⟨log ++ (top.finish fs context).log, .ok r⟩
        | parent :: rest =>
          run fs context (log ++ (top.finish fs context).log)
            { parent with done := r :: parent.done } rest := by
  rw [run, Frame.finish_of_next?_eq_none fs context h]
  split
  · next hn => rw [hn] at h; cases h
  · rfl

/-- **The loop gives what its stack owes**, behind the notices written so far. -/
theorem run_eq (log : List Notice) (top : Frame) (below : List Frame) :
    run fs context log top below
      = (top.finish fs context >>= resume fs context below).behind log := by
  -- The induction is on the steps the stack takes at most, as the loop's own recursion is.
  induction hk : pendingSteps (top :: below) using Nat.strongRecOn generalizing log top below with
  | ind k ih =>
    subst hk
    cases hnext : top.next? with
    | some next =>
      obtain ⟨c, rest⟩ := next
      rw [run_down fs context hnext, Frame.finish_next fs context hnext, bind_assoc]
      cases hc : c.children? with
      | none =>
        have hfail : c.render fs context = Outcome.fail .misuse := by rw [Node.render_eq, hc]
        rw [hfail]
        exact congrArg (Outcome.mk · _) (List.append_nil log).symm
      | some children =>
        have hlt : pendingSteps (⟨c, children, []⟩ :: rest :: below)
            < pendingSteps (top :: below) := by
          have h1 := stepsAll_next hnext
          have h2 := stepsAll_children hc
          simp only [pendingSteps]
          omega
        dsimp only
        rw [ih _ hlt _ _ _ rfl, Frame.finish_fresh fs context hc]
        rfl
    | none =>
      rw [run_up fs context hnext]
      cases hr : (top.finish fs context).result with
      | error e =>
        rw [Outcome.bind_of_error hr]
        rfl
      | ok r =>
        rw [Outcome.bind_of_ok hr, Outcome.behind_behind]
        cases below with
        | nil => exact congrArg (Outcome.mk · _) (List.append_nil _).symm
        | cons parent rest =>
          have hlt : pendingSteps ({ parent with done := r :: parent.done } :: rest)
              < pendingSteps (top :: parent :: rest) := by
            simp only [pendingSteps]
            omega
          exact ih _ hlt _ _ _ rfl

/-- The stack of frames gives what the recursion gives. -/
theorem render_eq (root : Node) : render fs context root = root.render fs context := by
  rw [render]
  cases hc : root.children? with
  | none => rw [Node.render_eq, hc]
  | some children =>
    dsimp only
    rw [run_eq, Frame.finish_fresh fs context hc, Outcome.behind_nil]
    exact bind_pure _

/-- **The stack of frames computes the recursion.**  Children are rendered from left to right, up to
the first null among them, before the rule of their parent is applied; result, failure and notices
agree. -/
theorem render_eq_post_order (root : Node) :
    render fs context root = root.render fs context
      ∧ root.render fs context = match root.children? with
          | none => Outcome.fail .misuse
          | some children => (do
            root.rule fs context
              (← (Node.shownChildren children).mapM (Node.render fs context))) := by
  refine ⟨render_eq fs context root, ?_⟩
  simp only [Node.render_eq, Node.renderAll_eq_mapM]

end Walk

end RichText
