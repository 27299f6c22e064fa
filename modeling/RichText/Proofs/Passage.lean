import RichText.Proofs.Scanner
import RichText.Proofs.Style

/-!
# Proofs/Passage — the tree says where which style is on

    tree ──passages──▸ places of nodes ──styleBehind──▸ style there = what the ancestors leave on

Every node that is rendered has a passage (`map_node_passages`), and a reader that comes to it has just
the attributes on that the ancestors show and that no earlier child of theirs has taken back
(`stands_of_mem_passages`).  An attribute that is on anywhere is shown by a node whose passage reaches
over that place (`exists_shows_of_has`).
-/

namespace RichText

open Rtf Rtf.Style Rtf.Scanner

namespace Rtf

/-- Where nothing is pending that could change the style, it is the one behind the lexemes. -/
theorem styleBehind_eq_readAll {t : Text} (h : (Scanner.scan {} t).IsQuiet) :
    styleBehind t = (StyleReader.readAll {} (lexemes t)).style := by
  rw [← settled_scan, settled_of_isQuiet h]
  rfl

theorem styleBehind_append (s t : Text) :
    styleBehind (s ++ t) = ((Scanner.scan {} s).scan t).style := by
  rw [styleBehind, scan_append]

/-- What begins two texts one after the other begins the first one or goes on in the second one. -/
theorem prefix_append_cases {s u v : Text} (h : s <+: u ++ v) :
    s <+: u ∨ ∃ w, s = u ++ w ∧ w <+: v := by
  obtain hs | hs := List.prefix_or_prefix_of_prefix h (List.prefix_append u v)
  · exact Or.inl hs
  · obtain ⟨w, rfl⟩ := hs
    exact Or.inr ⟨w, rfl, (List.prefix_append_right_inj u).mp h⟩

end Rtf

theorem Outcome.rtf_of_ok {o : Outcome Rendered} {t : Text} (h : o.result = .ok (.text t)) :
    o.rtf = t := by rw [rtf, h]

theorem Branch.enclosure?_of_ok {context : RenderContext} {b : Branch} {e : Enclosure}
    (h : (b.enclosure context).result = .ok e) : b.enclosure? context = some e := by
  rw [enclosure?, h]

namespace Ancestor

/-- At the first child of a branch, the branch shows what it shows. -/
theorem isOn_entered (a : Attribute) (b : Branch) (above : List Ancestor) :
    isOn a (⟨b, []⟩ :: above) = (isOn a above || b.shows a) := by
  rw [isOn, takesBack, List.any_nil, Bool.not_false, Bool.true_and, Bool.or_comm]

/-- At the next child, what the one before it takes back is off. -/
theorem isOn_passed (a : Attribute) (b : Branch) (n : Node) (earlier : List Node)
    (above : List Ancestor) :
    isOn a (⟨b, n :: earlier⟩ :: above)
      = (isOn a (⟨b, earlier⟩ :: above) && !n.takesBack a) := by
  rw [isOn, isOn, takesBack, takesBack, List.any_cons, Bool.not_or, Bool.and_assoc, Bool.and_comm]

/-- **An attribute is on where an ancestor shows it** and no child before the place, of that ancestor or
of one further in, has taken it back. -/
theorem isOn_iff {a : Attribute} {ancestors : List Ancestor} :
    isOn a ancestors = true ↔ ∃ inner x above, ancestors = inner ++ x :: above
      ∧ x.branch.shows a = true ∧ ∀ y ∈ inner ++ [x], y.takesBack a = false := by
  induction ancestors with
  | nil => simp [isOn]
  | cons y rest ih =>
    rw [isOn, Bool.and_eq_true, Bool.not_eq_true', Bool.or_eq_true, ih]
    constructor
    · rintro ⟨hy, hshows | ⟨inner, x, above, rfl, hx, hinner⟩⟩
      · exact ⟨[], y, rest, rfl, hshows, List.forall_mem_singleton.mpr hy⟩
      · exact ⟨y :: inner, x, above, rfl, hx, List.forall_mem_cons.mpr ⟨hy, hinner⟩⟩
    · rintro ⟨inner, x, above, heq, hx, hinner⟩
      cases inner with
      | nil =>
        cases heq
        exact ⟨hinner y (List.mem_singleton_self y), Or.inl hx⟩
      | cons z inner =>
        cases heq
        obtain ⟨hz, hinner⟩ := List.forall_mem_cons.mp hinner
        exact ⟨hz, Or.inr ⟨inner, x, above, rfl, hx, hinner⟩⟩

end Ancestor

/-- **A passage that stands in RTF**: its own RTF is that of its node, and a reader comes to it with
the attributes that its ancestors leave on. -/
structure Passage.Stands (fs : FileSystem) (context : RenderContext) (t : Text) (p : Passage) :
    Prop where
  render_eq : (p.node.render fs context).result = .ok (.text p.own)
  own_le : p.before ++ p.own <+: t
  isQuiet : (Scanner.scan {} p.before).IsQuiet
  has_eq (a : Attribute) : (styleBehind p.before).has a = Ancestor.isOn a p.ancestors

/-- **A passage that shows an attribute at a place**: its node shows it, and it reaches over the place,
which is behind the text `s`. -/
structure Passage.Shows (p : Passage) (a : Attribute) (s : Text) : Prop where
  shows : p.node.shows a = true
  before_le : p.before <+: s
  le_own : s <+: p.before ++ p.own

/-- A passage stands in longer RTF as well. -/
theorem Passage.Stands.mono {fs : FileSystem} {context : RenderContext} {t u : Text} {p : Passage}
    (h : p.Stands fs context t) (hu : t <+: u) : p.Stands fs context u :=
  ⟨h.render_eq, h.own_le.trans hu, h.isQuiet, h.has_eq⟩

namespace Node

variable {fs : FileSystem} {context : RenderContext}

/-! ## The passages of a tree -/

mutual

/-- **Every node that is rendered has a passage.** -/
theorem map_node_passages (n : Node) {ancestors : List Ancestor} {before t : Text}
    (h : (n.render fs context).result = .ok (.text t)) :
    (passages fs context ancestors before n).map Passage.node = n.shownNodes := by
  match n with
  | .leaf l => rw [passages, shownNodes]; rfl
  | .branch b children metadata =>
    obtain ⟨rs, body, e, hrs, hbody, he, rfl⟩ := exists_enclosure_of_render h
    rw [passages, shownNodes, Branch.enclosure?_of_ok he, List.map_cons]
    exact congrArg _ (map_node_allPassages children hrs hbody)
  | .misfilled b value metadata => rw [passages, shownNodes]; rfl

theorem map_node_allPassages (children : List Node) {b : Branch} {above : List Ancestor}
    {earlier : List Node} {before : Text} {rs : List Rendered} {body : Text}
    (h : (renderAll fs context children).result = .ok rs) (hbody : Rendered.join rs = .ok body) :
    (allPassages fs context b above earlier before children).map Passage.node
      = allShownNodes children := by
  match children with
  | [] => rw [allPassages, allShownNodes]; rfl
  | n :: rest =>
    rw [renderAll] at h
    rw [allPassages, allShownNodes]
    split at h
    · next hnull => rw [if_pos hnull, if_pos hnull]; rfl
    · next hnull =>
      obtain ⟨first, hfirst, h⟩ := Outcome.result_bind_eq_ok.mp h
      obtain ⟨others, hothers, h⟩ := Outcome.result_bind_eq_ok.mp h
      cases h
      obtain ⟨t, u, rfl, hu, rfl⟩ := Rendered.join_cons_eq_ok hbody
      rw [if_neg hnull, if_neg hnull, List.map_append, map_node_passages n hfirst,
        map_node_allPassages rest hothers hu]

end

/-! ## The style at a passage -/

/-- The scanner behind the beginning of a branch. -/
theorem reads_before {b : Branch} {e : Enclosure} (he : Branch.Encloses context b e)
    {before : Text} (hx : (Scanner.scan {} before).IsQuiet) :
    ∃ r, Reads (Scanner.scan {} before) e.before r ((styleBehind before).including b.shows)
      ∧ r.style = (styleBehind before).including b.shows := by
  obtain ⟨opened, hbefore, -⟩ := surrounds_of_encloses he hx
  exact ⟨_, hbefore, rfl⟩

mutual

/-- **The tree says which attributes are on at a passage.** -/
theorem stands_of_mem_passages (n : Node) {ancestors : List Ancestor} {before t : Text}
    (h : (n.render fs context).result = .ok (.text t)) (hx : (Scanner.scan {} before).IsQuiet)
    (hstyle : ∀ a, (styleBehind before).has a = Ancestor.isOn a ancestors) {p : Passage}
    (hp : p ∈ passages fs context ancestors before n) : p.Stands fs context (before ++ t) := by
  have hself : Passage.Stands fs context (before ++ t)
      ⟨n, ancestors, before, (n.render fs context).rtf⟩ := by
    rw [Outcome.rtf_of_ok h]
    exact ⟨h, List.prefix_refl _, hx, hstyle⟩
  match n with
  | .leaf l =>
    rw [passages, List.mem_singleton] at hp
    exact hp ▸ hself
  | .branch b children metadata =>
    obtain ⟨rs, body, e, hrs, hbody, he, rfl⟩ := exists_enclosure_of_render h
    rw [passages, Branch.enclosure?_of_ok he] at hp
    rcases List.mem_cons.mp hp with rfl | hp
    · exact hself
    · obtain ⟨r, hbefore, hr⟩ := reads_before (Branch.encloses_of_enclosure he) hx
      refine (stands_of_mem_allPassages children hrs hbody ?_ (fun a => ?_) hp).mono ?_
      · rw [scan_append]
        exact hbefore.isQuiet
      · rw [styleBehind_append, style, hbefore.reader_eq, hr, has_including, hstyle,
          Ancestor.isOn_entered]
      · exact ⟨e.after, by simp only [Enclosure.around, List.append_assoc]⟩
  | .misfilled b value metadata =>
    rw [passages, List.mem_singleton] at hp
    exact hp ▸ hself

theorem stands_of_mem_allPassages (children : List Node) {b : Branch} {above : List Ancestor}
    {earlier : List Node} {before : Text} {rs : List Rendered} {body : Text}
    (h : (renderAll fs context children).result = .ok rs) (hbody : Rendered.join rs = .ok body)
    (hx : (Scanner.scan {} before).IsQuiet)
    (hstyle : ∀ a, (styleBehind before).has a = Ancestor.isOn a (⟨b, earlier⟩ :: above))
    {p : Passage} (hp : p ∈ allPassages fs context b above earlier before children) :
    p.Stands fs context (before ++ body) := by
  match children with
  | [] =>
    rw [allPassages] at hp
    exact absurd hp List.not_mem_nil
  | n :: rest =>
    rw [renderAll] at h
    rw [allPassages] at hp
    split at h
    · next hnull =>
      rw [if_pos hnull] at hp
      exact absurd hp List.not_mem_nil
    · next hnull =>
      obtain ⟨first, hfirst, h⟩ := Outcome.result_bind_eq_ok.mp h
      obtain ⟨others, hothers, h⟩ := Outcome.result_bind_eq_ok.mp h
      cases h
      obtain ⟨t, u, rfl, hu, rfl⟩ := Rendered.join_cons_eq_ok hbody
      rw [if_neg hnull, Outcome.rtf_of_ok hfirst] at hp
      rw [← List.append_assoc]
      rcases List.mem_append.mp hp with hp | hp
      · exact (stands_of_mem_passages n hfirst hx hstyle hp).mono (List.prefix_append _ u)
      · obtain ⟨hquiet, hreader⟩ := scan_render n hfirst hx
        refine stands_of_mem_allPassages rest hothers hu ?_ (fun a => ?_) hp
        · rw [scan_append]
          exact hquiet
        · rw [styleBehind_append, style, hreader, has_excluding, Ancestor.isOn_passed, ← hstyle]
          rfl

end

/-! ## The style anywhere -/

/-- Within the RTF of a branch, and outside of that of its children, nothing is on but what was on before
it and what it shows. -/
theorem isWithin_of_prefix_around {b : Branch} {e : Enclosure} (he : Branch.Encloses context b e)
    {body : Text} {off : Attribute → Bool} {x : Scanner} (hx : x.IsQuiet)
    (hbody : ∀ y : Scanner, y.IsQuiet → (y.scan body).IsQuiet
      ∧ (y.scan body).reader = ⟨y.style.excluding off, y.reader.outer⟩)
    {s : Text} (hs : s <+: e.around body) :
    (x.scan s).style.isWithin (x.style.including b.shows) = true
      ∨ ∃ w, s = e.before ++ w ∧ w <+: body := by
  rcases prefix_append_cases hs with hs | ⟨w, rfl, hw⟩
  · refine (prefix_append_cases hs).imp_left fun hs => ?_
    obtain ⟨opened, hbefore, -⟩ := surrounds_of_encloses he hx
    exact hbefore.within _ (style_scan_mem_styles hs)
  · rw [scan_append, scan_append]
    exact Or.inl ((reads_after he hx hbody).within _ (style_scan_mem_styles hw))

mutual

/-- **An attribute that is on within the RTF of a node** was on before it, or is shown there by the node
or one in it. -/
theorem exists_shows_of_has (n : Node) {ancestors : List Ancestor} {before t : Text}
    (h : (n.render fs context).result = .ok (.text t)) (hx : (Scanner.scan {} before).IsQuiet)
    {s : Text} (hs : s <+: t) {a : Attribute} (ha : (styleBehind (before ++ s)).has a = true) :
    (styleBehind before).has a = true
      ∨ ∃ p ∈ passages fs context ancestors before n, p.Shows a (before ++ s) := by
  -- The passage of the node itself reaches over all of its RTF.
  have hself {b : Branch} (hb : ∀ a, n.shows a = b.shows a)
      (hi : ((styleBehind before).including b.shows).has a = true) :
      (styleBehind before).has a = true
        ∨ (Passage.mk n ancestors before (n.render fs context).rtf).Shows a (before ++ s) := by
    rw [has_including, Bool.or_eq_true, ← hb] at hi
    rw [Outcome.rtf_of_ok h]
    exact hi.imp_right fun hn =>
      ⟨hn, List.prefix_append _ _, (List.prefix_append_right_inj before).mpr hs⟩
  match n with
  | .leaf l =>
    have hl := reads_of_isFragment (Leaf.isFragment_of_rule h) hx
    rw [styleBehind_append] at ha
    exact Or.inl (isWithin_iff.mp (hl.within _ (style_scan_mem_styles hs)) a ha)
  | .branch b children metadata =>
    obtain ⟨rs, body, e, hrs, hbody, he, rfl⟩ := exists_enclosure_of_render h
    have he' := Branch.encloses_of_enclosure he
    rw [passages, Branch.enclosure?_of_ok he]
    rcases isWithin_of_prefix_around he' hx
      (fun y hy => scan_renderAll children hrs hbody hy) hs with hi | ⟨w, rfl, hw⟩
    · rw [styleBehind_append] at ha
      exact (hself (fun _ => rfl) (isWithin_iff.mp hi a ha)).imp_right fun hp =>
        ⟨_, List.mem_cons_self, hp⟩
    · obtain ⟨r, hbefore, hr⟩ := reads_before he' hx
      rw [← List.append_assoc] at ha
      have hquiet : (Scanner.scan {} (before ++ e.before)).IsQuiet := by
        rw [scan_append]
        exact hbefore.isQuiet
      rcases exists_shows_of_has_all children hrs hbody hquiet hw ha with hi | ⟨p, hp, hshows⟩
      · rw [styleBehind_append, style, hbefore.reader_eq, hr] at hi
        exact (hself (fun _ => rfl) hi).imp_right fun hp => ⟨_, List.mem_cons_self, hp⟩
      · rw [List.append_assoc] at hshows
        exact Or.inr ⟨p, List.mem_cons_of_mem _ hp, hshows⟩
  | .misfilled b value metadata =>
    obtain ⟨e, he, rfl⟩ := exists_of_render_misfilled h
    rw [passages]
    have hi : ((styleBehind before).including b.shows).has a = true := by
      rw [styleBehind_append] at ha
      rcases isWithin_of_prefix_around he hx (fun y hy => scan_nothing hy) hs with
        hi | ⟨w, rfl, hw⟩
      · exact isWithin_iff.mp hi a ha
      · obtain ⟨r, hbefore, hr⟩ := reads_before he hx
        rw [List.prefix_nil.mp hw, List.append_nil] at ha
        exact isWithin_iff.mp hbefore.style_isWithin a ha
    exact (hself (fun _ => rfl) hi).imp_right fun hp => ⟨_, List.mem_singleton_self _, hp⟩

theorem exists_shows_of_has_all (children : List Node) {b : Branch} {above : List Ancestor}
    {earlier : List Node} {before : Text} {rs : List Rendered} {body : Text}
    (h : (renderAll fs context children).result = .ok rs) (hbody : Rendered.join rs = .ok body)
    (hx : (Scanner.scan {} before).IsQuiet) {s : Text} (hs : s <+: body) {a : Attribute}
    (ha : (styleBehind (before ++ s)).has a = true) :
    (styleBehind before).has a = true
      ∨ ∃ p ∈ allPassages fs context b above earlier before children, p.Shows a (before ++ s) := by
  match children with
  | [] =>
    cases h
    cases hbody
    rw [List.prefix_nil.mp hs, List.append_nil] at ha
    exact Or.inl ha
  | n :: rest =>
    rw [renderAll] at h
    rw [allPassages]
    split at h
    · cases h
      cases hbody
      rw [List.prefix_nil.mp hs, List.append_nil] at ha
      exact Or.inl ha
    · next hnull =>
      obtain ⟨first, hfirst, h⟩ := Outcome.result_bind_eq_ok.mp h
      obtain ⟨others, hothers, h⟩ := Outcome.result_bind_eq_ok.mp h
      cases h
      obtain ⟨t, u, rfl, hu, rfl⟩ := Rendered.join_cons_eq_ok hbody
      rw [if_neg hnull, Outcome.rtf_of_ok hfirst]
      rcases prefix_append_cases hs with hs | ⟨w, rfl, hw⟩
      · rcases exists_shows_of_has n hfirst hx hs ha with hi | ⟨p, hp, hshows⟩
        · exact Or.inl hi
        · exact Or.inr ⟨p, List.mem_append_left _ hp, hshows⟩
      · obtain ⟨hquiet, hreader⟩ := scan_render n hfirst hx
        rw [← List.append_assoc] at ha ⊢
        rw [← scan_append] at hquiet hreader
        rcases exists_shows_of_has_all rest hothers hu hquiet hw ha with hi | ⟨p, hp, hshows⟩
        · rw [styleBehind, style, hreader, has_excluding, Bool.and_eq_true] at hi
          exact Or.inl hi.1
        · exact Or.inr ⟨p, List.mem_append_right _ hp, hshows⟩

end

end Node

/-! ## Rendered trees -/

namespace Walk

variable {fs : FileSystem} {context : RenderContext} {root : Node} {t : Text}

/-- A reader begins with nothing pending. -/
theorem isQuiet_start : (Scanner.scan {} ([] : Text)).IsQuiet := trivial

/-- The passages of a rendered tree stand in its RTF. -/
theorem stands_of_render (h : (root.render fs context).result = .ok (.text t)) {p : Passage}
    (hp : p ∈ root.passages fs context [] []) : p.Stands fs context t :=
  Node.stands_of_mem_passages root h isQuiet_start (fun a => by cases a <;> rfl) hp

/-- **Formatting stays where it belongs.**  Every node that is rendered has its passage in the RTF.
Behind a passage nothing is on that was off before it; at its beginning nothing is on that no ancestor
of its node shows, and nothing more in a leaf.  Wherever an attribute is on at all, a node that shows
it reaches over that place. -/
theorem style_confined (h : (render fs context root).result = .ok (.text t)) :
    (root.passages fs context [] []).map Passage.node = root.shownNodes
      ∧ (∀ p ∈ root.passages fs context [] [],
        (render fs context p.node).result = .ok (.text p.own) ∧ p.before ++ p.own <+: t
          ∧ (styleBehind (p.before ++ p.own)).isWithin (styleBehind p.before) = true
          ∧ (∀ a, (styleBehind p.before).has a = true → ∃ x ∈ p.ancestors, x.branch.shows a = true)
          ∧ ∀ l, p.node = .leaf l → ∀ s, s <+: p.own →
            (styleBehind (p.before ++ s)).isWithin (styleBehind p.before) = true)
      ∧ ∀ s, s <+: t → ∀ a, (styleBehind s).has a = true →
        ∃ p ∈ root.passages fs context [] [], p.Shows a s := by
  rw [render_eq] at h
  refine ⟨Node.map_node_passages root h, fun p hp => ?_, fun s hs a ha => ?_⟩
  · have hp' := stands_of_render h hp
    refine ⟨(render_eq fs context p.node).symm ▸ hp'.render_eq, hp'.own_le, ?_, fun a ha => ?_,
      fun l hl s hs => ?_⟩
    · obtain ⟨-, hreader⟩ := Node.scan_render p.node hp'.render_eq hp'.isQuiet
      rw [styleBehind_append, style, hreader]
      exact excluding_isWithin _ _
    · rw [hp'.has_eq, Ancestor.isOn_iff] at ha
      obtain ⟨inner, x, above, hx, hshows, -⟩ := ha
      exact ⟨x, hx ▸ List.mem_append_right _ List.mem_cons_self, hshows⟩
    · have hrender := hp'.render_eq
      rw [hl] at hrender
      rw [styleBehind_append]
      exact (reads_of_isFragment (Leaf.isFragment_of_rule hrender) hp'.isQuiet).within _
        (style_scan_mem_styles hs)
  · refine (Node.exists_shows_of_has root h isQuiet_start hs ha).resolve_left ?_
    cases a <;> exact Bool.false_ne_true

/-- Control words in text, a code span in strong text, and text behind both. -/
theorem style_confined_sample :
    let context : RenderContext := ⟨.null, .utf16, none, .bool false⟩
    let fs : FileSystem := ⟨.directory [], []⟩
    let root : Node := .branch .paragraph
      [.branch .strong [.branch .inlineCode [.leaf (.text (.text "\\b0 x") .null)] .null] .null,
        .leaf (.text (.text "\\b y") .null)] .null
    ∃ t, (render fs context root).result = .ok (.text t)
      ∧ ∀ p ∈ root.passages fs context [] [], ∀ a, (styleBehind p.before).has a = true →
        ∃ x ∈ p.ancestors, x.branch.shows a = true := by
  intro context fs root
  have h : (render fs context root).result = .ok (.text
      "\\b \\i\\ul \\\\b0 x\\ul0\\i0 \\b0 \\\\b y\\line\\line ") := by
    rw [render_eq]
    rfl
  exact ⟨_, h, fun p hp => ((style_confined h).2.1 p hp).2.2.2.1⟩

/-! ## What is on, and what should be -/

/-- **An attribute is on at the beginning of a passage** just where an ancestor shows it and no earlier
child, of that ancestor or of one further in, has taken it back. -/
theorem has_style_iff (h : (render fs context root).result = .ok (.text t)) {p : Passage}
    (hp : p ∈ root.passages fs context [] []) (a : Attribute) :
    (styleBehind p.before).has a = true ↔ ∃ inner x above, p.ancestors = inner ++ x :: above
      ∧ x.branch.shows a = true ∧ ∀ y ∈ inner ++ [x], y.takesBack a = false := by
  rw [render_eq] at h
  rw [(stands_of_render h hp).has_eq, Ancestor.isOn_iff]

/-- Emphasis in a heading takes nothing back that the heading shows: text behind it is bold. -/
theorem has_style_behind_emphasis :
    let context : RenderContext := ⟨.null, .utf16, none, .bool false⟩
    let fs : FileSystem := ⟨.directory [], []⟩
    let root : Node := .branch (.heading (.int 1))
      [.branch .emphasis [.leaf (.text (.text "a") .null)] .null,
        .leaf (.text (.text "b") .null)] .null
    ∃ t, (render fs context root).result = .ok (.text t)
      ∧ ∃ p ∈ root.passages fs context [] [], p.node = .leaf (.text (.text "b") .null)
        ∧ (styleBehind p.before).has .bold = true := by
  intro context fs root
  have h : (render fs context root).result
      = .ok (.text "\x7b\\fs48\\b \\i a\\i0 b\\b\x7d\\line\\line ") := by
    rw [render_eq]
    rfl
  let heading : Ancestor :=
    ⟨.heading (.int 1), [.branch .emphasis [.leaf (.text (.text "a") .null)] .null]⟩
  let p : Passage := ⟨.leaf (.text (.text "b") .null), [heading], "\x7b\\fs48\\b \\i a\\i0 ", "b"⟩
  have hp : p ∈ root.passages fs context [] [] := List.mem_of_getElem? (i := 3) rfl
  exact ⟨_, h, p, hp, rfl, (has_style_iff h hp .bold).mpr
    ⟨[], heading, [], rfl, rfl, List.forall_mem_singleton.mpr rfl⟩⟩

/-- Strong text in a heading takes bold back: text behind it in the heading is not bold. -/
theorem not_has_style_behind_strong :
    let context : RenderContext := ⟨.null, .utf16, none, .bool false⟩
    let fs : FileSystem := ⟨.directory [], []⟩
    let root : Node := .branch (.heading (.int 1))
      [.leaf (.text (.text "a ") .null), .branch .strong [.leaf (.text (.text "b") .null)] .null,
        .leaf (.text (.text " c") .null)] .null
    ∃ t, (render fs context root).result = .ok (.text t)
      ∧ ∃ p ∈ root.passages fs context [] [], p.node = .leaf (.text (.text " c") .null)
        ∧ (∃ x ∈ p.ancestors, x.branch = .heading (.int 1))
        ∧ (styleBehind p.before).has .bold = false := by
  intro context fs root
  have h : (render fs context root).result
      = .ok (.text "\x7b\\fs48\\b a \\b b\\b0  c\\b\x7d\\line\\line ") := by
    rw [render_eq]
    rfl
  let p : Passage := ⟨.leaf (.text (.text " c") .null), [⟨.heading (.int 1),
    [.branch .strong [.leaf (.text (.text "b") .null)] .null, .leaf (.text (.text "a ") .null)]⟩],
    "\x7b\\fs48\\b a \\b b\\b0 ", " c"⟩
  have hp : p ∈ root.passages fs context [] [] := List.mem_of_getElem? (i := 4) rfl
  exact ⟨_, h, p, hp, rfl, ⟨_, List.mem_cons_self, rfl⟩, rfl⟩

end Walk

end RichText
