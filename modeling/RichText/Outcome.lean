import RichText.Failure

/-!
# Outcome — results with a log

An `Outcome` is a result or a failure together with the notices written on the way.  Notices written
before a failure are kept.
-/

namespace RichText

/-- **What is worth noting.** -/
inductive Notice
  | noRule (kind : Value)
  | remoteImage (url : Value)
  | embeddingFailed (url : Value) (cause : Failure)
  | imageUri (message : Text)
  | unknownNodeType (name : Value)
  | schemaDiffers (version : Value)
  | unknownOptions (type : Text) (names : List Value)
  | renderingDone
  | parsingDone
  | genericToken (type : Value)
  | badFrontMatter
  | frontMatterType (typeName : Text)

/-- How urgent a notice is. -/
inductive Level
  | debug
  | warning
  deriving DecidableEq

namespace Notice

def level : Notice → Level
  | embeddingFailed _ _ => .warning
  | unknownNodeType _ => .warning
  | schemaDiffers _ => .warning
  | badFrontMatter => .warning
  | _ => .debug

/-- The first hundred items of a text or list in a message. -/
def shortened : Value → Value
  | .text t => .text (t.take 100)
  | .list items => .list (items.take 100)
  | .bytes b => .bytes (b.take 100)
  | v => v

/-- The wording of a notice. -/
def text : Notice → Text
  | noRule kind => "No RTF rule for node kind '" ++ kind.shown ++ "', using fallback rendering"
  | remoteImage url => "Not embedding remote image: " ++ url.shown
  | embeddingFailed url cause =>
    "Failed to embed image " ++ (shortened url).shown ++ ": " ++ cause.message
  | imageUri message => message
  | unknownNodeType name => "Unknown node type '" ++ name.shown ++ "', loading as element"
  | schemaDiffers version =>
    "Schema version " ++ version.shown ++ " differs from supported version 1. "
      ++ "Attempting to parse anyway (schema validation disabled)."
  | unknownOptions type names =>
    "Skipping unknown " ++ type ++ " options: " ++ (Value.list names).shown
  | renderingDone => "Rendering (rtf) completed in <T>s"
  | parsingDone => "Parsing (markdown) completed in <T>s"
  | genericToken type => "Mapping mistune token '" ++ type.shown ++ "' to a generic element"
  | badFrontMatter => "Ignoring malformed YAML front matter"
  | frontMatterType typeName =>
    "Front matter is a " ++ typeName ++ ", not a mapping; ignoring it"

end Notice

/-- **A result or a failure, and the notices written on the way.** -/
structure Outcome (α : Type) where
  log : List Notice
  result : Except Failure α

/-- Going on gives a result if both steps do. -/
theorem except_bind_eq_ok {ε α β : Type} {x : Except ε α} {f : α → Except ε β} {b : β} :
    x >>= f = .ok b ↔ ∃ a, x = .ok a ∧ f a = .ok b := by
  cases x <;> simp [bind, Except.bind]

namespace Outcome

variable {α β : Type}

def ok (a : α) : Outcome α := ⟨[], .ok a⟩

def fail (f : Failure) : Outcome α := ⟨[], .error f⟩

/-- Go on with a result, and keep both logs. -/
def andThen (x : Outcome α) (f : α → Outcome β) : Outcome β :=
  match x.result with
  | .ok a =>
    let y := f a
    ⟨x.log ++ y.log, y.result⟩
  | .error e => ⟨x.log, .error e⟩

instance : Monad Outcome where
  pure := ok
  bind := andThen

/-- Write a notice. -/
def note (n : Notice) : Outcome Unit := ⟨[n], .ok ()⟩

/-- A result without a log. -/
def ofExcept (r : Except Failure α) : Outcome α := ⟨[], r⟩

instance : MonadLift (Except Failure) Outcome := ⟨ofExcept⟩

@[simp] theorem pure_log (a : α) : (pure a : Outcome α).log = [] := rfl

@[simp] theorem pure_result (a : α) : (pure a : Outcome α).result = .ok a := rfl

theorem bind_def (x : Outcome α) (f : α → Outcome β) : x >>= f = x.andThen f := rfl

/-- The same behind notices. -/
theorem result_bind_eq_ok {x : Outcome α} {f : α → Outcome β} {b : β} :
    (x >>= f).result = .ok b ↔ ∃ a, x.result = .ok a ∧ (f a).result = .ok b := by
  cases x with
  | mk log result => cases result <;> simp [bind_def, andThen]

theorem map_id (x : Outcome α) : id <$> x = x := by
  cases x with
  | mk log result => cases result <;> simp [Functor.map, andThen, ok]

theorem ok_andThen (a : α) (f : α → Outcome β) : (pure a : Outcome α) >>= f = f a := by
  simp [bind, andThen, pure, ok]

theorem andThen_assoc {γ : Type} (x : Outcome α) (f : α → Outcome β) (g : β → Outcome γ) :
    x >>= f >>= g = x >>= fun a => f a >>= g := by
  cases x with
  | mk log result =>
    cases result with
    | error e => simp [bind, andThen]
    | ok a =>
      simp only [bind, andThen]
      cases (f a).result <;> simp

instance : LawfulMonad Outcome := LawfulMonad.mk' Outcome map_id ok_andThen andThen_assoc

end Outcome

end RichText
