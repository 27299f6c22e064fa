import RichText.Conversion
import RichText.Proofs.Join
import RichText.Proofs.TreeDict
import RichText.Proofs.Walk
import RichText.Tree.Order

/-!
# Proofs/Draft — how the rendering of a tree ends

    children ──▸ the first failure of a child, or their texts ──▸ the failure of the parent, or its text

In a draft the attributes that a node cannot do without may be missing, and those that are given are
what their names promise (`Node.IsDraft`).  A node fails by itself for a gap, or for an address that
has no URL at the base (`Node.flaw?`).  A draft that is rendered without images embedded gives a
text, or fails as the first node in post-order does (`Node.render_ends`).
-/

namespace RichText

/-! ## Drafts -/

/-- A text of characters, as addresses are. -/
def Value.IsAddress (v : Value) : Prop := ∃ t, v = .text t ∧ t.hasSurrogate = false

/-- The fields of a branch that are needed are missing or what their names promise. -/
def Branch.IsDraft : Branch → Prop
  | heading level => level = .null ∨ ∃ i, level.int? = some i ∧ 1 ≤ i ∧ i ≤ 6
  | link url _ => url = .null ∨ url.IsAddress
  | _ => True

/-- **A draft**: a tree of nodes, those of foreign kinds among them, whose needed fields are missing
or what their names promise. -/
inductive Node.IsDraft : Node → Prop
  | text {content metadata : Value} (hcontent : content = .null ∨ content.IsText) :
    IsDraft (leaf (.text content metadata))
  | image {url alt title width height metadata : Value} (hurl : url = .null ∨ url.IsAddress)
    (halt : alt = .null ∨ alt.IsText) : IsDraft (leaf (.image url alt title width height metadata))
  | foreign (className : Text) : IsDraft (leaf (.foreign className))
  | branch {b : Branch} {children : List Node} {metadata : Value} (hb : b.IsDraft)
    (hchildren : ∀ c ∈ children, IsDraft c) : IsDraft (branch b children metadata)

/-- A base URL that there is none of, or a text of characters. -/
def Value.IsBase (v : Value) : Prop := v.truthy = false ∨ v.IsAddress

/-- Why a node by itself has no RTF. -/
def Node.flaw? (base : Value) (n : Node) : Option Failure :=
  (n.gap?.map Gap.failure).or ((n.refusal? base).map fun e => .invalid (.url e))

/-! ## Links -/

namespace Url

theorem exists_quote {v : Value} (h : v.IsAddress) : ∃ t, quote v = .ok t := by
  obtain ⟨t, rfl, ht⟩ := h
  obtain ⟨bytes, hbytes⟩ := (Text.isWhole_iff.mpr ht).exists_toUtf8
  exact ⟨fieldArgument bytes, by rw [quote, hbytes]; rfl⟩

/-- There is nothing to refuse where there is no base. -/
theorem refusal?_of_not_truthy {base : Value} (h : base.truthy = false) (address : Value) :
    refusal? base address = none := by
  rw [refusal?.eq_def]
  split
  · next b a =>
    have hb : b.isEmpty = true := by simpa [Value.truthy] using h
    rw [joinError?, hb, Bool.true_or, if_pos rfl, ite_self]
  · rfl

/-- What two texts are resolved to. -/
theorem resolve_text (base address : Text) :
    resolve (.text address) (.text base)
      = if Text.hasInfix "://" address || base.isEmpty then .ok (.text address)
        else match join base address with
          | .ok t => .ok (.text t)
          | .error e => .error (.invalid (.url e)) := by
  rw [resolve, Value.containsText]
  simp only [bind, Except.bind, pure, Except.pure, Value.truthy, Bool.not_not]
  cases Text.hasInfix "://" address with
  | true => rfl
  | false =>
    cases hb : base.isEmpty with
    | true => rfl
    | false =>
      cases ha : address.isEmpty with
      | true => rw [join, hb, ha]; rfl
      | false => rfl

/-- Without a base, an address stands for itself. -/
theorem resolve_of_not_truthy {base : Value} (h : base.truthy = false) (address : Text) :
    resolve (.text address) base = .ok (.text address) := by
  rw [resolve.eq_def, Value.containsText, h]
  dsimp only [bind, Except.bind, pure, Except.pure]
  split <;> rfl

/-- **An address has a URL at a base**, made of characters, just where it is not refused. -/
theorem resolve_endsIn {address base : Value} (ha : address.IsAddress) (hb : base.IsBase) :
    EndsIn Value.IsAddress (resolve address base)
      ((refusal? base address).map fun e => .invalid (.url e)) := by
  cases hbase : base.truthy with
  | false =>
    rw [refusal?_of_not_truthy hbase]
    obtain ⟨a, rfl, ha⟩ := ha
    rw [resolve_of_not_truthy hbase]
    exact .ok ⟨a, rfl, ha⟩
  | true =>
    obtain ⟨a, rfl, ha⟩ := ha
    obtain ⟨b, rfl, hbw⟩ := hb.resolve_left (by simp [hbase])
    have hbe : b.isEmpty = false := by simpa [Value.truthy] using hbase
    have hjoin := join_endsIn b a
    rw [resolve_text, refusal?, hbe, Bool.or_false]
    split
    · exact .ok ⟨a, rfl, ha⟩
    · cases herror : joinError? b a with
      | some e =>
        rw [herror] at hjoin
        have hjoin : join b a = .error e := hjoin
        rw [hjoin]
        rfl
      | none =>
        rw [herror] at hjoin
        obtain ⟨t, ht, hwhole⟩ := hjoin
        have hw := hwhole (Text.isWhole_iff.mpr hbw) (Text.isWhole_iff.mpr ha)
        rw [ht]
        exact .ok ⟨t, rfl, Text.isWhole_iff.mp hw⟩

end Url

namespace Rtf

variable {context : RenderContext}

/-- A link to an address fails just where the address is refused. -/
theorem hyperlink_endsIn {url : Value} (hurl : url.IsAddress) (hbase : context.baseUrl.IsBase) :
    EndsIn (fun _ => True) (hyperlink context url)
      ((Url.refusal? context.baseUrl url).map fun e => .invalid (.url e)) := by
  refine (Url.resolve_endsIn hurl hbase).andThen fun v hv => ?_
  obtain ⟨t, ht⟩ := Url.exists_quote hv
  rw [ht]
  exact ⟨_, rfl, trivial⟩

/-- Whole levels of headings have a font size. -/
theorem exists_fontSize {level : Value} {i : Int} (h : level.int? = some i) (hi : 1 ≤ i) :
    ∃ size, fontSize level = .ok (.int size) := by
  have hne : i ≠ 0 := by omega
  refine ⟨Int.fdiv (96 + i) (2 * i), ?_⟩
  cases level with
  | int j =>
    obtain rfl : j = i := Option.some.inj h
    exact if_neg hne
  | bool b =>
    obtain rfl := Option.some.inj h
    exact if_neg hne
  | _ => cases h

/-- What no rule has to be known for: a text and nothing at all have RTF. -/
theorem exists_content (mode : UnicodeMode) {v : Value} (h : v = .null ∨ v.IsText) :
    ∃ r, content mode v = .ok r := by
  obtain rfl | ⟨t, rfl⟩ := h <;> exact ⟨_, rfl⟩

end Rtf

/-! ## Nodes by themselves -/

/-- A rule, or a rendering, that gives a text. -/
def GivesText (r : Rendered) : Prop := ∃ t, r = .text t

variable {fs : FileSystem} {context : RenderContext}

/-- A field is missing, or it is there. -/
theorem Gap.ofValue?_of_isNull {v : Value} (h : v.isNull = false) (kind wanted : Text) :
    Gap.ofValue? kind wanted v = none := by
  rw [Gap.ofValue?, h]
  rfl

theorem Value.IsAddress.isNull {v : Value} (h : v.IsAddress) : v.isNull = false := by
  obtain ⟨t, rfl, -⟩ := h
  rfl

theorem Value.isNull_of_int? {v : Value} {i : Int} (h : v.int? = some i) : v.isNull = false := by
  cases v with
  | null => cases h
  | _ => rfl

/-- **What stands around the children of a draft** is found, unless the branch has a flaw. -/
theorem Branch.enclosure_endsIn {b : Branch} (hb : b.IsDraft) (hbase : context.baseUrl.IsBase)
    (children : List Node) (metadata : Value) :
    EndsIn (fun _ => True) (b.enclosure context).result
      ((Node.branch b children metadata).flaw? context.baseUrl) := by
  cases b with
  | heading level =>
    obtain rfl | ⟨i, hi, hlow, -⟩ := hb
    · rfl
    · have hnull := Value.isNull_of_int? hi
      have hflaw : (Node.branch (.heading level) children metadata).flaw? context.baseUrl
          = none := by
        rw [Node.flaw?, Node.gap?, Branch.missing?, Gap.ofValue?_of_isNull hnull]
        rfl
      obtain ⟨size, hsize⟩ := Rtf.exists_fontSize hi hlow
      rw [hflaw, enclosure, hnull, if_neg Bool.false_ne_true, hsize]
      exact .ok trivial
  | link url title =>
    obtain rfl | hurl := hb
    · rfl
    · have hflaw : (Node.branch (.link url title) children metadata).flaw? context.baseUrl
          = (Url.refusal? context.baseUrl url).map fun e => .invalid (.url e) := by
        rw [Node.flaw?, Node.gap?, Branch.missing?, Gap.ofValue?_of_isNull hurl.isNull]
        rfl
      rw [hflaw, enclosure, hurl.isNull, if_neg Bool.false_ne_true]
      exact Rtf.hyperlink_endsIn hurl hbase
  | _ => exact .ok trivial

/-- **The link that stands for an image** is a text, unless its address is refused. -/
theorem Leaf.imageLink_endsIn {url alt : Value} (hurl : url.IsAddress)
    (halt : alt = .null ∨ alt.IsText) (hbase : context.baseUrl.IsBase) :
    EndsIn GivesText (imageLink context url alt)
      ((Url.refusal? context.baseUrl url).map fun e => .invalid (.url e)) := by
  obtain ⟨r, hr⟩ := Rtf.exists_content context.unicodeMode halt
  rw [imageLink, hr]
  exact (Rtf.hyperlink_endsIn hurl hbase).andThen fun e _ => ⟨_, rfl, _, rfl⟩

/-- **The RTF of a leaf of a draft** is a text, unless the leaf has a flaw. -/
theorem Leaf.rule_endsIn {l : Leaf} (hl : (Node.leaf l).IsDraft) (hbase : context.baseUrl.IsBase)
    (hloader : context.imageLoader = none) :
    EndsIn GivesText (l.rule fs context).result
      ((Node.leaf l).flaw? context.baseUrl) := by
  cases hl with
  | text hcontent =>
    obtain rfl | ⟨t, rfl⟩ := hcontent
    · rfl
    · exact .ok ⟨_, rfl⟩
  | foreign className => exact .ok ⟨_, rfl⟩
  | @image url alt title width height metadata hurl halt =>
    obtain rfl | hurl := hurl
    · rfl
    · have hflaw : (Node.leaf (.image url alt title width height metadata)).flaw? context.baseUrl
          = (Url.refusal? context.baseUrl url).map fun e => .invalid (.url e) := by
        rw [Node.flaw?, Node.gap?, Leaf.missing?, Gap.ofValue?_of_isNull hurl.isNull]
        rfl
      have hlink : (rule fs context (.image url alt title width height metadata)).result
          = imageLink context url alt := by
        rw [rule, hurl.isNull, if_neg Bool.false_ne_true, hloader]
        rfl
      rw [hflaw, hlink]
      exact imageLink_endsIn hurl halt hbase

/-! ## Trees -/

theorem EndsIn.exists_text_iff {r : Except Failure Rendered} {f : Option Failure}
    (h : EndsIn GivesText r f) : (∃ t, r = .ok (.text t)) ↔ f = none := by
  rw [← h.exists_ok_iff]
  constructor
  · rintro ⟨t, ht⟩
    exact ⟨_, ht, t, rfl⟩
  · rintro ⟨_, hr, t, rfl⟩
    exact ⟨t, hr⟩

/-- Going on with a result, with what both steps end in. -/
theorem Outcome.endsIn_bind {α β : Type} {P : α → Prop} {Q : β → Prop} {x : Outcome α}
    {next : α → Outcome β} {f g : Option Failure} (h : EndsIn P x.result f)
    (hnext : ∀ a, P a → EndsIn Q (next a).result g) : EndsIn Q (x >>= next).result (f.or g) := by
  have hresult : (x >>= next).result = x.result >>= fun a => (next a).result := by
    obtain ⟨log, result⟩ := x
    cases result <;> rfl
  rw [hresult]
  exact h.bind hnext

theorem Rendered.join_texts (ts : List Text) : join (ts.map text) = .ok ts.flatten := by
  induction ts with
  | nil => rfl
  | cons t rest ih => rw [List.map_cons, join, ih]; rfl

namespace Node

theorem IsDraft.isNull {n : Node} (h : n.IsDraft) : n.isNull = false := by
  cases h <;> rfl

/-- Every node of a draft is one. -/
theorem IsDraft.of_mem {n m : Node} (h : n.IsDraft) (hm : m ∈ n.postOrder) : m.IsDraft := by
  induction h with
  | text hcontent => exact mem_postOrder_leaf.mp hm ▸ .text hcontent
  | image hurl halt => exact mem_postOrder_leaf.mp hm ▸ .image hurl halt
  | foreign className => exact mem_postOrder_leaf.mp hm ▸ .foreign className
  | branch hb hchildren ih =>
    rcases mem_postOrder_branch.mp hm with hm | rfl
    · obtain ⟨c, hc, hm⟩ := mem_allPostOrder.mp hm
      exact ih c hc hm
    · exact .branch hb hchildren

/-- How trees end that are rendered from left to right: as the first of them that fails. -/
theorem renderAll_endsIn {fault? : Node → Option Failure} {children : List Node}
    (hnull : ∀ c ∈ children, c.isNull = false)
    (h : ∀ c ∈ children, EndsIn GivesText (c.render fs context).result
      (c.postOrder.findSome? fault?)) :
    EndsIn (fun rs => ∃ ts : List Text, rs = ts.map Rendered.text)
      (renderAll fs context children).result ((allPostOrder children).findSome? fault?) := by
  induction children with
  | nil => exact .ok ⟨[], rfl⟩
  | cons c rest ih =>
    obtain ⟨hc, hrest⟩ := List.forall_mem_cons.mp hnull
    obtain ⟨hfirst, hothers⟩ := List.forall_mem_cons.mp h
    rw [renderAll, hc, if_neg Bool.false_ne_true, allPostOrder, List.findSome?_append]
    refine Outcome.endsIn_bind hfirst ?_
    rintro _ ⟨t, rfl⟩
    rw [← Option.or_none (o := List.findSome? _ _)]
    refine Outcome.endsIn_bind (ih hrest hothers) ?_
    rintro _ ⟨ts, rfl⟩
    exact .ok ⟨t :: ts, rfl⟩

/-- **A draft ends as its nodes do**: it gives a text, or fails as the first node in post-order does
whose own rule fails. -/
theorem render_endsIn_of {fault? : Node → Option Failure} {n : Node} (hn : n.IsDraft)
    (hleaf : ∀ l, leaf l ∈ n.postOrder → EndsIn GivesText (l.rule fs context).result
      (fault? (leaf l)))
    (hbranch : ∀ b children metadata, branch b children metadata ∈ n.postOrder →
      EndsIn (fun _ => True) (b.enclosure context).result (fault? (branch b children metadata))) :
    EndsIn GivesText (n.render fs context).result (n.postOrder.findSome? fault?) := by
  have hown {l : Leaf} (h : ∀ k, leaf k ∈ (leaf l).postOrder →
      EndsIn GivesText (k.rule fs context).result (fault? (leaf k))) :
      EndsIn GivesText ((leaf l).render fs context).result
        ((leaf l).postOrder.findSome? fault?) := by
    have heq : (leaf l).postOrder.findSome? fault? = fault? (leaf l) := by simp [postOrder]
    rw [heq]
    exact h l (mem_postOrder_leaf.mpr rfl)
  induction hn with
  | text _ => exact hown hleaf
  | image _ _ => exact hown hleaf
  | foreign _ => exact hown hleaf
  | @branch b children metadata hb hchildren ih =>
    have hmem {c m : Node} (hc : c ∈ children) (hm : m ∈ c.postOrder) :
        m ∈ (branch b children metadata).postOrder :=
      mem_postOrder_branch.mpr (.inl (mem_allPostOrder.mpr ⟨c, hc, hm⟩))
    have hself : [branch b children metadata].findSome? fault?
        = fault? (branch b children metadata) := by simp
    rw [render, postOrder, List.findSome?_append]
    refine Outcome.endsIn_bind (renderAll_endsIn (fun c hc => (hchildren c hc).isNull)
      fun c hc => ih c hc (fun l hl => hleaf l (hmem hc hl))
        fun b' cs m hm => hbranch b' cs m (hmem hc hm)) ?_
    rintro _ ⟨ts, rfl⟩
    rw [rule, Rendered.join_texts, hself, ← Option.or_none (o := fault? _)]
    show EndsIn _ (b.rule context ts.flatten).result _
    exact Outcome.endsIn_bind (hbranch b children metadata (mem_postOrder_branch.mpr (.inr rfl)))
      fun e _ => EndsIn.ok ⟨e.around ts.flatten, rfl⟩

/-- **A draft gives a text, or fails as the first node in post-order does** that has a gap, or an
address without a URL at the base; no image is embedded. -/
theorem render_endsIn {n : Node} (hn : n.IsDraft) (hbase : context.baseUrl.IsBase)
    (hloader : context.imageLoader = none) :
    EndsIn GivesText (n.render fs context).result
      (n.postOrder.findSome? (flaw? context.baseUrl)) := by
  refine render_endsIn_of hn (fun l hl => Leaf.rule_endsIn (hn.of_mem hl) hbase hloader)
    fun b children metadata hm => ?_
  cases hn.of_mem hm with
  | branch hb _ => exact Branch.enclosure_endsIn hb hbase children metadata

/-! ## Drafts that lack nothing -/

/-- **A draft that lacks nothing.** -/
structure IsFinished (n : Node) : Prop where
  isDraft : n.IsDraft
  gap? : ∀ m ∈ n.postOrder, m.gap? = none

theorem isFinished_leaf {l : Leaf} (h : (leaf l).IsDraft) (hgap : l.missing? = none) :
    (leaf l).IsFinished :=
  ⟨h, by simpa [postOrder, Node.gap?] using hgap⟩

theorem isFinished_branch {b : Branch} {children : List Node} {metadata : Value} (hb : b.IsDraft)
    (hgap : b.missing? = none) (hchildren : ∀ c ∈ children, c.IsFinished) :
    (branch b children metadata).IsFinished where
  isDraft := .branch hb fun c hc => (hchildren c hc).isDraft
  gap? := by
    intro m hm
    rcases mem_postOrder_branch.mp hm with hm | rfl
    · obtain ⟨c, hc, hm⟩ := mem_allPostOrder.mp hm
      exact (hchildren c hc).gap? m hm
    · exact hgap

/-- Every heading of a draft that lacks nothing has one of the six levels. -/
theorem IsFinished.level {n : Node} (h : n.IsFinished) {level : Value} {children : List Node}
    {metadata : Value} (hm : branch (.heading level) children metadata ∈ n.postOrder) :
    ∃ i, level.int? = some i ∧ 1 ≤ i ∧ i ≤ 6 := by
  have hgap := h.gap? _ hm
  cases h.isDraft.of_mem hm with
  | branch hb _ =>
    refine hb.resolve_left ?_
    rintro rfl
    exact nomatch hgap

end Node

/-! ## Conversion -/

namespace Conversion

variable {fs : FileSystem} {o : RtfOptions} {root : Node}

/-- The context of options that embed no images. -/
def contextOf (o : RtfOptions) : RenderContext :=
  ⟨o.baseUrl, o.unicodeMode, none, o.failOnResourceErrors⟩

/-- Without images to embed, no loader is made. -/
theorem renderWith_eq (hembed : o.embedImages.truthy = false) (fs : FileSystem) (root : Node) :
    renderWith fs o root = do
      let rendered ← root.render fs (contextOf o)
      Outcome.note .renderingDone
      return rendered := by
  have hcontext : RenderContext.ofOptions fs o = .ok (contextOf o) := by
    rw [RenderContext.ofOptions, hembed]
    rfl
  rw [renderWith, hcontext, ← Walk.render_eq]
  rfl

/-- Rendering a draft with options that embed no images. -/
theorem renderWith_endsIn (h : root.IsDraft) (hbase : o.baseUrl.IsBase)
    (hembed : o.embedImages.truthy = false) (fs : FileSystem) :
    EndsIn GivesText (renderWith fs o root).result
      (root.postOrder.findSome? (Node.flaw? o.baseUrl)) := by
  rw [renderWith_eq hembed, ← Option.or_none (o := List.findSome? _ _)]
  exact Outcome.endsIn_bind (Node.render_endsIn h hbase rfl) fun r hr => EndsIn.ok hr

/-- Without a base URL, what a node by itself fails for is a gap. -/
theorem flaw?_of_not_truthy {base : Value} (hbase : base.truthy = false) (n : Node) :
    n.flaw? base = n.gap?.map Gap.failure := by
  have hrefusal : n.refusal? base = none := by
    rw [Node.refusal?, Option.bind_eq_none_iff]
    exact fun address _ => Url.refusal?_of_not_truthy hbase address
  rw [Node.flaw?, hrefusal, Option.map_none, Option.or_none]

/-- Without a base URL, what a draft fails for is a gap. -/
theorem findSome?_flaw?_of_not_truthy {base : Value} (hbase : base.truthy = false)
    (nodes : List Node) :
    nodes.findSome? (Node.flaw? base) = (nodes.findSome? Node.gap?).map Gap.failure := by
  rw [List.map_findSome?, funext (flaw?_of_not_truthy hbase)]
  rfl

/-- Without gaps, what a draft fails for is an address. -/
theorem findSome?_flaw?_of_gap? {base : Value} {nodes : List Node}
    (hgap : ∀ n ∈ nodes, n.gap? = none) :
    nodes.findSome? (Node.flaw? base)
      = (nodes.findSome? (Node.refusal? base)).map fun e => .invalid (.url e) := by
  rw [List.map_findSome?]
  induction nodes with
  | nil => rfl
  | cons n rest ih =>
    obtain ⟨hn, hrest⟩ := List.forall_mem_cons.mp hgap
    rw [List.findSome?_cons, List.findSome?_cons, ih hrest, Node.flaw?, hn]
    rfl

/-- A draft that lacks nothing has an RTF, if it is rendered as by default. -/
theorem exists_render_of_isFinished {n : Node} (h : n.IsFinished) (fs : FileSystem) :
    ∃ t, (render fs n none []).result = .ok (.text t) := by
  have hends := renderWith_endsIn (o := {}) h.isDraft (.inl rfl) rfl fs
  have hnone : n.postOrder.findSome? Node.gap? = none := List.findSome?_eq_none_iff.mpr h.gap?
  rw [findSome?_flaw?_of_not_truthy rfl, hnone] at hends
  exact hends.exists_text_iff.mpr rfl

/-- **What a draft lacks decides how its rendering ends**, where there is no base URL and no image is
embedded: it gives a text if no node has a gap, and otherwise fails for the gap of the first node in
post-order, and for nothing else. -/
theorem renderWith_missing (h : root.IsDraft) (hbase : o.baseUrl.truthy = false)
    (hembed : o.embedImages.truthy = false) (fs : FileSystem) :
    ((∃ t, (renderWith fs o root).result = .ok (.text t)) ↔ ∀ n ∈ root.postOrder, n.gap? = none)
      ∧ ∀ e, (renderWith fs o root).result = .error e
        ↔ ∃ g, root.postOrder.findSome? Node.gap? = some g
          ∧ e = .missingAttribute (.text g.kind) (.text g.wanted) .null := by
  have hends := renderWith_endsIn h (.inl hbase) hembed fs
  rw [findSome?_flaw?_of_not_truthy hbase] at hends
  refine ⟨?_, fun e => ?_⟩
  · rw [hends.exists_text_iff, Option.map_eq_none_iff, List.findSome?_eq_none_iff]
  · rw [hends.eq_error_iff, Option.map_eq_some_iff]
    exact exists_congr fun g => and_congr_right fun _ => eq_comm

/-- A link that lacks its URL, in front of a heading that lacks its level; the text of the link comes
before both in post-order. -/
theorem renderWith_missing_sample :
    let link : Node := .branch (.link .null .null) [.leaf (.text .null .null)] .null
    let root : Node := .branch .document
      [.branch .paragraph [link] .null, .branch (.heading .null) [] .null] .null
    (renderWith ⟨.directory [], []⟩ {} root).result = .error (.missing "text" "content") := by
  intro link root
  have hlink : link.IsDraft := .branch (.inl rfl) (List.forall_mem_singleton.mpr (.text (.inl rfl)))
  have hheading : (Node.branch (.heading .null) [] .null).IsDraft :=
    .branch (.inl rfl) (List.forall_mem_nil _)
  have hroot : root.IsDraft := by
    refine .branch trivial (List.forall_mem_cons.mpr
      ⟨.branch trivial (List.forall_mem_singleton.mpr hlink), ?_⟩)
    exact List.forall_mem_singleton.mpr hheading
  exact ((renderWith_missing hroot rfl rfl _).2 _).mpr ⟨_, rfl, rfl⟩

/-- Options of the renderer that are handed over alone are those it renders with. -/
theorem render_rtf (fs : FileSystem) (root : Node) (o : RtfOptions) :
    render fs root (some (.rtf o)) [] = renderWith fs o root := rfl

/-- **Where a draft lacks nothing, the addresses decide how its rendering ends**: it gives a text if
every address has a URL at the base, and otherwise fails as the first one in post-order does that has
none, and for nothing else. -/
theorem render_at_base (h : root.IsDraft) (hgap : ∀ n ∈ root.postOrder, n.gap? = none)
    (hbase : o.baseUrl = .null ∨ o.baseUrl.IsAddress) (hembed : o.embedImages.truthy = false)
    (fs : FileSystem) :
    ((∃ t, (render fs root (some (.rtf o)) []).result = .ok (.text t))
        ↔ ∀ n ∈ root.postOrder, n.refusal? o.baseUrl = none)
      ∧ ∀ e, (render fs root (some (.rtf o)) []).result = .error e
        ↔ ∃ why, root.postOrder.findSome? (Node.refusal? o.baseUrl) = some why
          ∧ e = .invalid (.url why) := by
  have hends := renderWith_endsIn h (hbase.imp_left fun hnull => by rw [hnull]; rfl) hembed fs
  rw [findSome?_flaw?_of_gap? hgap] at hends
  rw [render_rtf]
  refine ⟨?_, fun e => ?_⟩
  · rw [hends.exists_text_iff, Option.map_eq_none_iff, List.findSome?_eq_none_iff]
  · rw [hends.eq_error_iff, Option.map_eq_some_iff]
    exact exists_congr fun why => and_congr_right fun _ => eq_comm

section Samples

/-- A document with a link to an address. -/
def linkTo (address : Text) : Node :=
  .branch .document [.branch .paragraph
    [.branch (.link (.text address) .null) [.leaf (.text "a" (.dict []))] (.dict [])] (.dict [])]
    (.dict [])

theorem isDraft_linkTo {address : Text} (h : address.hasSurrogate = false) :
    (linkTo address).IsDraft := by
  have htext : (Node.leaf (.text "a" (.dict []))).IsDraft := .text (.inr ⟨_, rfl⟩)
  have hlink : (Node.branch (.link (.text address) .null) [.leaf (.text "a" (.dict []))]
      (.dict [])).IsDraft :=
    .branch (.inr ⟨_, rfl, h⟩) (List.forall_mem_singleton.mpr htext)
  exact .branch trivial (List.forall_mem_singleton.mpr
    (.branch trivial (List.forall_mem_singleton.mpr hlink)))

theorem gap?_linkTo (address : Text) : ∀ n ∈ (linkTo address).postOrder, n.gap? = none := by
  simp [linkTo, Node.postOrder, Node.allPostOrder, Node.gap?, Branch.missing?, Leaf.missing?,
    Gap.ofValue?, Value.isNull]

/-- A path is joined to a base URL, and the link leads to what comes of it. -/
theorem render_at_base_sample :
    Url.resolve (.text "../b") (.text "http://h/a/c") = .ok (.text "http://h/b")
      ∧ ∃ t, (render ⟨.directory [], []⟩ (linkTo "../b")
        (some (.rtf { baseUrl := .text "http://h/a/c" })) []).result = .ok (.text t) := by
  refine ⟨rfl, ?_⟩
  have hbase : (Value.text "http://h/a/c").IsAddress := ⟨_, rfl, rfl⟩
  have hjoined : (linkTo "../b").postOrder.findSome? (Node.refusal? (.text "http://h/a/c")) = none := rfl
  have hdraft : (linkTo "../b").IsDraft := isDraft_linkTo rfl
  refine (render_at_base hdraft (gap?_linkTo "../b") (.inr hbase) rfl _).1.mpr ?_
  exact List.findSome?_eq_none_iff.mp hjoined

/-- An address with a bracket that nothing closes has no URL at a base, and the rendering fails. -/
theorem render_bracket_at_base :
    (render ⟨.directory [], []⟩ (linkTo "//[")
      (some (.rtf { baseUrl := .text "http://h/" })) []).result
        = .error (.invalid (.url .unpairedBracket)) := by
  have hbase : (Value.text "http://h/").IsBase := .inr ⟨_, rfl, rfl⟩
  have hdraft : (linkTo "//[").IsDraft := isDraft_linkTo rfl
  have hends := renderWith_endsIn (o := { baseUrl := .text "http://h/" }) hdraft hbase rfl
    ⟨.directory [], []⟩
  rw [findSome?_flaw?_of_gap? (gap?_linkTo "//[")] at hends
  have hrefusal : (linkTo "//[").postOrder.findSome? (Node.refusal? (.text "http://h/"))
      = some .unpairedBracket := rfl
  rw [hrefusal] at hends
  exact hends

end Samples

end Conversion

end RichText
