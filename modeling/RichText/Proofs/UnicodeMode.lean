import Mathlib.Data.List.Basic
import RichText.Proofs.Reading
import RichText.Proofs.Strictness
import RichText.Tree.Order

/-!
# Proofs/UnicodeMode — one tree rendered in two modes

    tree ──render──▸ RTF in one mode      ──unescape──▸ text
    tree ──render──▸ RTF in another mode  ──unescape──▸ the same text

Two renderings that differ in the mode alone go through the same steps, write the same notices and
fail in the same way (`Outcome.Agree`); their RTF is related by whatever relates markup to itself
and escaped text to escaped text (`IsShared`).  To stand for one text is such a relation, and, where
no text has a character above `U+FFFF`, so is to be the same.
-/

namespace RichText

/-! ## Outcomes that agree -/

namespace Outcome

/-- **Outcomes that agree**: both write the same notices, and then fail in the same way or have
results of which a relation holds. -/
inductive Agree {α β : Type} (R : α → β → Prop) : Outcome α → Outcome β → Prop
  | ok (log : List Notice) {a : α} {b : β} (h : R a b) : Agree R ⟨log, .ok a⟩ ⟨log, .ok b⟩
  | error (log : List Notice) (e : Failure) : Agree R ⟨log, .error e⟩ ⟨log, .error e⟩

variable {α β γ δ : Type} {R : α → β → Prop} {S : γ → δ → Prop}

theorem agree_pure {a : α} {b : β} (h : R a b) : Agree R (pure a) (pure b) := .ok [] h

theorem agree_fail (e : Failure) : Agree R (fail e) (fail e) := .error [] e

theorem agree_note (n : Notice) : Agree Eq (note n) (note n) := .ok [n] rfl

theorem Agree.behind {x : Outcome α} {y : Outcome β} (h : Agree R x y) (log : List Notice) :
    Agree R (x.behind log) (y.behind log) := by
  cases h with
  | ok own hab => exact .ok (log ++ own) hab
  | error own e => exact .error (log ++ own) e

theorem Agree.bind {x : Outcome α} {y : Outcome β} {f : α → Outcome γ} {g : β → Outcome δ}
    (h : Agree R x y) (hnext : ∀ a b, R a b → Agree S (f a) (g b)) :
    Agree S (x >>= f) (y >>= g) := by
  cases h with
  | ok log hab => exact (hnext _ _ hab).behind log
  | error log e => exact .error log e

/-- An outcome agrees with itself if its result is related to itself. -/
theorem agree_self {R : α → α → Prop} {x : Outcome α} (h : ∀ a, x.result = .ok a → R a a) :
    Agree R x x := by
  obtain ⟨log, result⟩ := x
  cases result with
  | ok a => exact .ok log (h a rfl)
  | error e => exact .error log e

/-- Outcomes that agree have the same notices, and fail in the same way or have related results. -/
theorem Agree.log_result {x : Outcome α} {y : Outcome β} (h : Agree R x y) :
    x.log = y.log ∧ ((∃ e, x.result = .error e ∧ y.result = .error e)
      ∨ ∃ a b, x.result = .ok a ∧ y.result = .ok b ∧ R a b) := by
  cases h with
  | ok log h => exact ⟨rfl, .inr ⟨_, _, rfl, rfl, h⟩⟩
  | error log e => exact ⟨rfl, .inl ⟨e, rfl, rfl⟩⟩

theorem Agree.eq {R : α → α → Prop} {x y : Outcome α} (h : Agree R x y)
    (hR : ∀ a b, R a b → a = b) : x = y := by
  cases h with
  | ok log h => rw [hR _ _ h]
  | error log e => rfl

theorem ofExcept_bind (x : Except Failure α) (f : α → Except Failure β) :
    ofExcept (x >>= f) = ofExcept x >>= fun a => ofExcept (f a) := by cases x <;> rfl

theorem ofExcept_map (x : Except Failure α) (f : α → β) :
    ofExcept (x.map f) = ofExcept x >>= fun a => pure (f a) := by cases x <;> rfl

end Outcome

open Outcome

/-! ## Texts of two renderings -/

namespace Rtf

/-- **A relation between the RTF of two modes** that holds of markup and of escaped texts with a
property, and goes from parts to rows of them. -/
structure IsShared (first second : UnicodeMode) (P : Text → Prop) (R : Text → Text → Prop) :
    Prop where
  markup {t : Text} (h : IsMarkup t) : R t t
  escaped {t : Text} (h : P t) : R (escape first t) (escape second t)
  append {s s' t t' : Text} (hs : R s s') (ht : R t t') : R (s ++ t) (s' ++ t')
  lower {t : Text} (h : P t) : P t.lower

end Rtf

/-- Results of two renderings: RTF of which a relation holds, or the same field without content. -/
inductive Rendered.Agree (R : Text → Text → Prop) : Rendered → Rendered → Prop
  | text {s t : Text} (h : R s t) : Agree R (text s) (text t)
  | value {v : Value} (h : v.truthy = false) : Agree R (value v) (value v)

/-- A result as a value. -/
def Rendered.toValue : Rendered → Value
  | text t => .text t
  | value v => v

/-- A context in a mode. -/
def RenderContext.inMode (context : RenderContext) (mode : Rtf.UnicodeMode) : RenderContext :=
  { context with unicodeMode := mode }

/-! ## The texts of a tree -/

/-- The text of a leaf that is escaped; the name of a class is put in lower case before. -/
def Leaf.ownText : Leaf → Text
  | text content _ => content.text?.getD []
  | image _ alt _ _ _ _ => alt.text?.getD []
  | foreign name => name
  | stray _ => []

/-- The text of a branch that is escaped. -/
def Branch.ownText : Branch → Text
  | element tag _ => tag.shown
  | _ => []

/-- **The text that a node itself shows**: the content of a text, the alternative text of an image,
the tag of an element or the name of a foreign class. -/
def Node.ownText : Node → Text
  | leaf l => l.ownText
  | branch b _ _ => b.ownText
  | misfilled b _ _ => b.ownText

/-! ## Rules -/

section Rules

open Rtf

variable {first second : UnicodeMode} {P : Text → Prop} {R : Text → Text → Prop}
  (hR : IsShared first second P R) {fs : FileSystem} {context : RenderContext}

include hR

theorem Rtf.IsShared.fallback {kind : Value} (h : P kind.shown) :
    R (Rtf.fallback first kind) (Rtf.fallback second kind) := by
  have hparentheses (mode : UnicodeMode) : Rtf.fallback mode kind
      = "(" ++ escape mode kind.shown ++ ")" := by
    rw [Rtf.fallback, escape_append, escape_append]
    cases mode <;> rfl
  rw [hparentheses, hparentheses]
  exact hR.append (hR.append (hR.markup (isMarkup_of_looksLikeMarkup rfl)) (hR.escaped h))
    (hR.markup (isMarkup_of_looksLikeMarkup rfl))

theorem Rtf.IsShared.content {v : Value} (h : P (v.text?.getD [])) :
    Agree (Rendered.Agree R) (ofExcept (Rtf.content first v))
      (ofExcept (Rtf.content second v)) := by
  cases v with
  | text t => exact agree_pure (.text (hR.escaped h))
  | bytes b =>
    refine agree_self fun r hr => ?_
    rw [Rtf.content] at hr
    split at hr
    · next hempty =>
      cases hr
      exact .value (by rw [Value.truthy, hempty]; rfl)
    · cases hr
  | date d => exact agree_fail _
  | moment d => exact agree_fail _
  | _ =>
    refine agree_self fun r hr => ?_
    simp only [Rtf.content] at hr
    split at hr
    · cases hr
    · next hfalsy =>
      cases hr
      exact .value (Bool.not_eq_true _ ▸ hfalsy)

theorem Rtf.IsShared.imageLink (context : RenderContext) (url : Value) {alt : Value}
    (h : P (alt.text?.getD [])) :
    Agree (Rendered.Agree R) (ofExcept (Leaf.imageLink (context.inMode first) url alt))
      (ofExcept (Leaf.imageLink (context.inMode second) url alt)) := by
  have hhyperlink : Agree (fun e e' => e = e' ∧ IsMarkup e.before ∧ IsMarkup e.after)
      (ofExcept (hyperlink (context.inMode first) url))
      (ofExcept (hyperlink (context.inMode second) url)) := by
    refine agree_self fun e he => ?_
    obtain ⟨address, rfl⟩ := exists_of_hyperlink_eq_ok he
    exact ⟨rfl, isMarkup_fieldAround address⟩
  rw [Leaf.imageLink, Leaf.imageLink, ofExcept_bind, ofExcept_bind]
  refine (hR.content h).bind fun shown shown' hshown => ?_
  rw [ofExcept_bind, ofExcept_bind]
  refine hhyperlink.bind fun e e' he => ?_
  obtain ⟨rfl, hbefore, hafter⟩ := he
  refine agree_pure (.text (hR.append (hR.append (hR.markup hbefore) ?_) (hR.markup hafter)))
  cases hshown with
  | text ht => exact ht
  | value hv => exact hR.markup isMarkup_nil

/-- **The rules of a leaf agree.** -/
theorem Rtf.IsShared.leafRule {l : Leaf} (h : P l.ownText) :
    Agree (Rendered.Agree R) (l.rule fs (context.inMode first))
      (l.rule fs (context.inMode second)) := by
  cases l with
  | text content metadata =>
    rw [Leaf.rule, Leaf.rule]
    split
    · exact agree_fail _
    · exact hR.content h
  | image url alt title width height metadata =>
    rw [Leaf.rule, Leaf.rule]
    split
    · exact agree_fail _
    · have hlink := hR.imageLink context url h
      obtain ⟨baseUrl, mode, imageLoader, failOnErrors⟩ := context
      cases imageLoader with
      | none => exact hlink
      | some loader =>
        -- Embedding does not look at the mode, and a picture is markup.
        have hpicture : Agree (fun p p' => p = p' ∧ ∀ t, p = some t → IsMarkup t)
            (Leaf.embedded? fs ⟨baseUrl, first, some loader, failOnErrors⟩ loader url width height)
            (Leaf.embedded? fs ⟨baseUrl, second, some loader, failOnErrors⟩ loader url width
              height) := by
          refine agree_self fun p hp => ⟨rfl, fun t ht => ?_⟩
          obtain ⟨image, himage⟩ := Leaf.picture_of_embedded? (ht ▸ hp)
          exact isMarkup_of_picture himage
        refine hpicture.bind fun p p' hp => ?_
        obtain ⟨rfl, hmarkup⟩ := hp
        cases p with
        | some t => exact agree_pure (.text (hR.markup (hmarkup t rfl)))
        | none => exact hlink
  | foreign name =>
    rw [Leaf.rule, Leaf.rule]
    exact (agree_note _).bind fun _ _ _ => agree_pure (.text (hR.fallback (hR.lower h)))
  | stray v => exact agree_fail _

/-- **What stands around children agrees.** -/
theorem Rtf.IsShared.enclosure {b : Branch} (h : P b.ownText) :
    Agree (fun e e' => R e.before e'.before ∧ R e.after e'.after)
      (b.enclosure (context.inMode first)) (b.enclosure (context.inMode second)) := by
  by_cases hb : ∀ tag attributes, b ≠ .element tag attributes
  · have hsame : b.enclosure (context.inMode first) = b.enclosure (context.inMode second) := by
      cases b with
      | element tag attributes => exact (hb tag attributes rfl).elim
      | _ => rfl
    rw [← hsame]
    refine agree_self fun e he => ?_
    obtain ⟨hbefore, hafter⟩ := isMarkup_of_encloses (Branch.encloses_of_enclosure he) hb
    exact ⟨hR.markup hbefore, hR.markup hafter⟩
  · obtain ⟨tag, attributes, rfl⟩ : ∃ tag attributes, b = .element tag attributes := by
      simpa using hb
    rw [Branch.enclosure, Branch.enclosure]
    exact (agree_note _).bind fun _ _ _ => agree_pure ⟨hR.fallback h, hR.markup isMarkup_nil⟩

theorem Rtf.IsShared.join {rs rs' : List Rendered} (h : List.Forall₂ (Rendered.Agree R) rs rs') :
    Agree R (ofExcept (Rendered.join rs)) (ofExcept (Rendered.join rs')) := by
  induction h with
  | nil => exact agree_pure (hR.markup isMarkup_nil)
  | cons hr _ ih =>
    cases hr with
    | text ht =>
      rw [Rendered.join, Rendered.join, ofExcept_map, ofExcept_map]
      exact ih.bind fun u u' hu => agree_pure (hR.append ht hu)
    | value hv => exact agree_fail _

theorem Rtf.IsShared.rule {n : Node} (h : P n.ownText) {rs rs' : List Rendered}
    (hrs : List.Forall₂ (Rendered.Agree R) rs rs') :
    Agree (Rendered.Agree R) (n.rule fs (context.inMode first) rs)
      (n.rule fs (context.inMode second) rs') := by
  have hbranch (b : Branch) (hb : P b.ownText) {body body' : Text} (hbody : R body body') :
      Agree (Rendered.Agree R) (b.rule (context.inMode first) body)
        (b.rule (context.inMode second) body') := by
    refine (hR.enclosure hb).bind fun e e' he => agree_pure (.text ?_)
    exact hR.append (hR.append he.1 hbody) he.2
  refine (hR.join hrs).bind fun body body' hbody => ?_
  cases n with
  | leaf l => exact hR.leafRule h
  | branch b children metadata => exact hbranch b h hbody
  | misfilled b value metadata => exact hbranch b h hbody

end Rules

/-! ## Trees -/

open Rtf

section Trees

variable {first second : UnicodeMode} {P : Text → Prop} {R : Text → Text → Prop}

mutual

/-- **Two renderings of a tree agree**, if the texts that its nodes show have the property. -/
theorem Rtf.IsShared.render (hR : IsShared first second P R) (fs : FileSystem)
    (context : RenderContext) (n : Node) (h : ∀ m ∈ n.postOrder, P m.ownText) :
    Agree (Rendered.Agree R) (n.render fs (context.inMode first))
      (n.render fs (context.inMode second)) := by
  match n with
  | .leaf l =>
    rw [Node.render, Node.render]
    exact hR.rule (h _ (Node.mem_postOrder_leaf.mpr rfl)) .nil
  | .branch b children metadata =>
    rw [Node.render, Node.render]
    refine (IsShared.renderAll hR fs context children fun m hm => ?_).bind fun rs rs' hrs => ?_
    · exact h m (Node.mem_postOrder_branch.mpr (.inl hm))
    · exact hR.rule (h _ (Node.mem_postOrder_branch.mpr (.inr rfl))) hrs
  | .misfilled b value metadata =>
    have hown : P (Node.misfilled b value metadata).ownText := h _ (by simp [Node.postOrder])
    rw [Node.render, Node.render]
    split
    · exact agree_fail _
    split
    · exact hR.rule hown .nil
    · exact agree_fail _

theorem Rtf.IsShared.renderAll (hR : IsShared first second P R) (fs : FileSystem)
    (context : RenderContext) (ns : List Node) (h : ∀ m ∈ Node.allPostOrder ns, P m.ownText) :
    Agree (List.Forall₂ (Rendered.Agree R)) (Node.renderAll fs (context.inMode first) ns)
      (Node.renderAll fs (context.inMode second) ns) := by
  match ns with
  | [] => exact agree_pure .nil
  | n :: rest =>
    obtain ⟨hn, hrest⟩ := List.forall_mem_append.mp h
    rw [Node.renderAll, Node.renderAll]
    split
    · exact agree_pure .nil
    · refine (IsShared.render hR fs context n hn).bind fun r r' hr => ?_
      exact (IsShared.renderAll hR fs context rest hrest).bind fun rs rs' hrs => agree_pure (.cons hr hrs)

end

end Trees

/-! ## Options -/

namespace Conversion

/-- **Renderings with options that differ in the mode agree.** -/
theorem agree_render {first second : UnicodeMode} {P : Text → Prop} {R : Text → Text → Prop}
    (hR : IsShared first second P R) (fs : FileSystem) (root : Node) (o : RtfOptions)
    (h : ∀ n ∈ root.postOrder, P n.ownText) :
    Agree (Rendered.Agree R) (render fs root (some (.rtf { o with unicodeMode := first })) [])
      (render fs root (some (.rtf { o with unicodeMode := second })) []) := by
  show Agree _ (renderWith fs { o with unicodeMode := first } root)
    (renderWith fs { o with unicodeMode := second } root)
  rw [renderWith, renderWith, ofOptions_eq, ofOptions_eq]
  have hloader (mode : UnicodeMode) :
      loaderOf fs { o with unicodeMode := mode } = loaderOf fs o := rfl
  rw [hloader first, hloader second]
  cases loaderOf fs o with
  | error e => exact agree_fail e
  | ok loader =>
    -- The mode of this context does not matter: it is replaced in both renderings.
    let context : RenderContext := ⟨o.baseUrl, first, loader, o.failOnResourceErrors⟩
    have hrendered := hR.render fs context root h
    rw [← Walk.render_eq, ← Walk.render_eq] at hrendered
    refine hrendered.bind fun r r' hr => ?_
    exact (agree_note _).bind fun _ _ _ => agree_pure hr

end Conversion

/-! ## To stand for one text -/

/-- **Markup and escaped text stand for one text in both modes**, and so do rows of them. -/
theorem Rtf.isShared_standsFor (first second : UnicodeMode) :
    IsShared first second (fun _ => True)
      fun s s' => ∃ text, StandsFor first s text ∧ StandsFor second s' text where
  markup h := by
    obtain ⟨text, htext⟩ := h.exists_standsFor
    exact ⟨text, htext first, htext second⟩
  escaped {t} _ := ⟨t, standsFor_escape first t, standsFor_escape second t⟩
  append := by
    rintro s s' t t' ⟨x, hs, hs'⟩ ⟨y, ht, ht'⟩
    exact ⟨x ++ y, hs.append ht, hs'.append ht'⟩
  lower _ := trivial

/-- Results that stand for one text are read as one value. -/
theorem Rendered.exists_unescapeValue {first second : UnicodeMode} {r r' : Rendered}
    (h : r.Agree (fun s s' => ∃ text, StandsFor first s text ∧ StandsFor second s' text) r') :
    ∃ v, unescapeValue r.toValue = .ok v ∧ unescapeValue r'.toValue = .ok v := by
  cases h with
  | text h =>
    obtain ⟨text, hs, ht⟩ := h
    refine ⟨.text text.joinPairs, ?_, ?_⟩
    · rw [toValue, unescapeValue, hs.unescape]
      rfl
    · rw [toValue, unescapeValue, ht.unescape]
      rfl
  | value h =>
    next v =>
    have hv : unescapeValue v = .ok v := by
      cases v with
      | text t =>
        obtain rfl : t = [] := by simpa [Value.truthy] using h
        rfl
      | _ => simp only [unescapeValue, h, Bool.false_eq_true, if_false]
    exact ⟨v, hv, hv⟩

/-! ## To be the same -/

namespace CodePoint

theorem code_ofCode_le {n : Nat} (h : n ≤ 0xFFFF) : (ofCode n).code ≤ 0xFFFF := by
  by_cases hv : n.isValidChar
  · rw [ofCode, ofCode?, dif_pos hv]
    exact h
  · rw [ofCode, ofCode?, dif_neg hv]
    split
    · next hhigh =>
      simp only [Option.getD_some, code]
      omega
    · split
      · simp only [Option.getD_some, code]
        omega
      · decide

/-- A table that leads from no code point up to `U+FFFF` to one above. -/
theorem code_le_of_mem_mapped {runs : List (Nat × Nat × Nat × Int)}
    {special : List (Nat × List Nat)}
    (hruns : ∀ r ∈ runs, 0xFFFF < r.1 ∨ (r.2.1 : Int) + r.2.2.2 ≤ 0xFFFF)
    (hspecial : ∀ e ∈ special, ∀ n ∈ e.2, n ≤ 0xFFFF) {c d : CodePoint} (hc : c.code ≤ 0xFFFF)
    (hd : d ∈ mapped runs special c) : d.code ≤ 0xFFFF := by
  rw [mapped] at hd
  split at hd
  · next image hfind =>
    obtain ⟨n, hn, rfl⟩ := List.mem_map.mp hd
    exact code_ofCode_le (hspecial _ (List.mem_of_find?_eq_some hfind) n hn)
  · split at hd
    · next first last step distance hfind =>
      have hrun := hruns _ (List.mem_of_find?_eq_some hfind)
      have hfirst := List.find?_some hfind
      obtain rfl := List.mem_singleton.mp hd
      simp only [Bool.and_eq_true, decide_eq_true_eq] at hfirst
      dsimp only at hrun
      exact code_ofCode_le (by omega)
    · obtain rfl := List.mem_singleton.mp hd
      exact hc

/-- **Lower case does not lead above `U+FFFF`.** -/
theorem code_le_of_mem_lower {c d : CodePoint} (hc : c.code ≤ 0xFFFF) (hd : d ∈ c.lower) :
    d.code ≤ 0xFFFF := by
  cases c with
  | char x =>
    rw [lower] at hd
    split at hd
    · next hx =>
      have key : ∀ n : Fin 128, (Char.ofNat n).toLower.toNat ≤ 0xFFFF := by decide
      have hlower := key ⟨x.toNat, hx⟩
      rw [Char.ofNat_toNat] at hlower
      obtain rfl := List.mem_singleton.mp hd
      exact hlower
    · exact code_le_of_mem_mapped (by decide +kernel) (by decide +kernel) hc hd
  | high h => exact List.mem_singleton.mp hd ▸ hc
  | low l => exact List.mem_singleton.mp hd ▸ hc

end CodePoint

theorem Text.code_le_of_mem_lowerFrom {before t : Text} (h : ∀ c ∈ t, c.code ≤ 0xFFFF) :
    ∀ d ∈ lowerFrom before t, d.code ≤ 0xFFFF := by
  induction t generalizing before with
  | nil => exact List.forall_mem_nil _
  | cons c rest ih =>
    obtain ⟨hc, hrest⟩ := List.forall_mem_cons.mp h
    rw [lowerFrom, List.forall_mem_append]
    refine ⟨?_, ih hrest⟩
    split
    · split <;> decide
    · exact fun d hd => CodePoint.code_le_of_mem_lower hc hd

/-- A code point up to `U+FFFF` is escaped alike in both modes. -/
theorem Rtf.escapedImage_eq {c : CodePoint} (h : c.code ≤ 0xFFFF) (first second : UnicodeMode) :
    escapedImage first c = escapedImage second c := by
  have hunits (mode : UnicodeMode) : escapeUnits mode c = [c.code] := by
    have hc : ¬ c.isAstral = true := by
      rw [CodePoint.isAstral_iff]
      omega
    cases mode with
    | utf16 => rw [escapeUnits, CodePoint.units16, if_neg hc]
    | codepoint => rfl
  have hcode : escapeCode first c = escapeCode second c := by
    rw [escapeCode_eq_flatMap, escapeCode_eq_flatMap, hunits, hunits]
  rw [escapedImage.eq_def, escapedImage.eq_def]
  split
  · rfl
  · rfl
  · rfl
  · rfl
  · rw [hcode]

/-- **Texts without characters above `U+FFFF` are escaped alike in both modes.** -/
theorem Rtf.isShared_eq (first second : UnicodeMode) :
    IsShared first second (fun t => ∀ c ∈ t, c.code ≤ 0xFFFF) Eq where
  markup _ := rfl
  escaped {t} h := by
    rw [escape_eq_flatMap, escape_eq_flatMap]
    exact List.flatMap_congr fun c hc => escapedImage_eq (h c hc) first second
  append := by
    rintro s _ t _ rfl rfl
    rfl
  lower h := Text.code_le_of_mem_lowerFrom h

/-! ## Both modes -/

namespace Conversion

/-- **Options that differ in the mode alone** render a tree with the same notices, and then to the
same failure or to RTF that is read as the same text, whatever stands in the tree; and to the same
RTF if no text, alternative text, tag or name of a foreign class has a character above `U+FFFF`. -/
theorem render_modes (fs : FileSystem) (root : Node) (o : RtfOptions) (first second : UnicodeMode) :
    let one := render fs root (some (.rtf { o with unicodeMode := first })) []
    let other := render fs root (some (.rtf { o with unicodeMode := second })) []
    one.log = other.log
      ∧ ((∃ e, one.result = .error e ∧ other.result = .error e)
        ∨ ∃ r r' v, one.result = .ok r ∧ other.result = .ok r'
          ∧ unescapeValue r.toValue = .ok v ∧ unescapeValue r'.toValue = .ok v)
      ∧ ((∀ n ∈ root.postOrder, ∀ c ∈ n.ownText, c.code ≤ 0xFFFF) → one = other) := by
  intro one other
  obtain ⟨hlog, hresult⟩ :=
    (agree_render (isShared_standsFor first second) fs root o fun _ _ => trivial).log_result
  refine ⟨hlog, ?_, fun h => ?_⟩
  · obtain herror | ⟨r, r', hr, hr', hstands⟩ := hresult
    · exact .inl herror
    · obtain ⟨v, hv, hv'⟩ := Rendered.exists_unescapeValue hstands
      exact .inr ⟨r, r', v, hr, hr', hv, hv'⟩
  · refine (agree_render (isShared_eq first second) fs root o h).eq fun r r' hr => ?_
    cases hr with
    | text heq => rw [heq]
    | value _ => rfl

/-- A class and a text beyond ASCII, but not above `U+FFFF`. -/
theorem render_modes_sample :
    let root : Node := .branch .document
      [.leaf (.foreign "É"), .branch .paragraph [.leaf (.text (.text "é\t1") .null)] .null] .null
    let rendered (mode : UnicodeMode) : Outcome Rendered :=
      render ⟨.directory [], []⟩ root (some (.rtf { unicodeMode := mode })) []
    (∀ n ∈ root.postOrder, ∀ c ∈ n.ownText, c.code ≤ 0xFFFF)
      ∧ rendered .utf16 = rendered .codepoint := by
  intro root rendered
  have h : ∀ n ∈ root.postOrder, ∀ c ∈ n.ownText, c.code ≤ 0xFFFF := by decide
  exact ⟨h, (render_modes ⟨.directory [], []⟩ root {} .utf16 .codepoint).2.2 h⟩

end Conversion

end RichText
