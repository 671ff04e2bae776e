/-
# StepPattern.Proofs.Callees -- which names are looked up

A registry takes part in an evaluation only through the names that the tokens call, at any
level (`Token.callees`).  So registries that define these names alike evaluate the tokens
alike, with the same log and the same draws (`Token.evaluateFrom_congr`), and compile a
text alike if they do so for the tokens that it parses to (`compile_congr`).

What is looked up is made of letters, both where a text is compiled
(`Tree.isLetters_of_mem_callees`) and where a transform is applied
(`Call.isLetters_of_ofValue`).
-/
import StepPattern.Proofs.Yield

namespace StepPattern

set_option autoImplicit false

open Text

namespace Token

mutual

def callees : Token → List Text
  | .literal _ | .repeated _ _ => []
  | .bracket call _ children _ => (call.map Call.name).toList ++ calleesAll children
termination_by structural token => token

def calleesAll : List Token → List Text
  | [] => []
  | token :: tokens => callees token ++ calleesAll tokens
termination_by structural tokens => tokens

end

/-! ## Callees are letters -/

mutual

theorem WellFormed.isLetters_callees {s : CompileSettings} {depth : Int} :
    {token : Token} → WellFormed s depth token → ∀ name ∈ callees token, isLetters name = true
  | .literal _, _ | .repeated _ _, _ => List.forall_mem_nil _
  | .bracket call _ _ _, ⟨named, _, _, children⟩ => by
      rw [callees, List.forall_mem_append]
      refine ⟨fun name member => ?_, AllWellFormed.isLetters_callees children⟩
      obtain ⟨calls, found, rfl⟩ := Option.map_eq_some_iff.1 (Option.mem_toList.1 member)
      exact named calls found

theorem AllWellFormed.isLetters_callees {s : CompileSettings} {depth : Int} :
    {tokens : List Token} → AllWellFormed s depth tokens →
      ∀ name ∈ calleesAll tokens, isLetters name = true
  | [], _ => List.forall_mem_nil _
  | _ :: _, ⟨here, further⟩ => by
      rw [calleesAll, List.forall_mem_append]
      exact ⟨WellFormed.isLetters_callees here, AllWellFormed.isLetters_callees further⟩

end

end Token

/-- Every name that a text calls is letters. -/
theorem Tree.isLetters_of_mem_callees (s : CompileSettings) (t : Text) (depth : Int) :
    ∀ name ∈ Token.calleesAll (parse s t depth).tokens, isLetters name = true :=
  (parse_allWellFormed s t depth).1.isLetters_callees

/-- Every name that is read from a value is letters. -/
theorem Call.isLetters_of_ofValue {v : Value} {call : Call} (written : ofValue v = .ok call) :
    isLetters call.name = true := by
  cases v with
  | text t =>
      simp only [ofValue, ofText] at written
      generalize dropFinalNewline t = word at written
      cases identifier : isIdentifier word with
      | false => simp [identifier] at written
      | true =>
          obtain ⟨letters, digits, rfl, name, decimal⟩ := exists_letters_digits identifier
          have all : letters.all Char.isAlpha = true := (Bool.and_eq_true_iff.1 name).2
          obtain ⟨taken, dropped⟩ := takeWhile_letters all decimal
          simp only [identifier, taken, dropped, Bool.not_true, Bool.false_eq_true, if_false]
            at written
          split at written
          · cases written
            exact name
          · split at written
            · cases written
              exact name
            · cases written
  | _ => cases written

/-! ## Only callees count -/

/-- A call only looks up its own name. -/
theorem Registry.call_eq_of_find? {r other : Registry} {call : Call}
    (agree : other.find? call.name = r.find? call.name) (loud : Bool) (param : Value)
    (s : Sequence) (g : Twister) :
    other.call loud call param s g = r.call loud call param s g := by
  rw [Registry.call, Registry.call, agree]

namespace Token

variable {c : Setting} {other : Registry}

mutual

theorem steps_congr (log : Log) (source : Twister) :
    (token : Token) →
      (agree : ∀ name ∈ callees token, other.find? name = c.registry.find? name) →
      steps { c with registry := other } log source token = steps c log source token
  | .literal _, _ | .repeated _ _, _ => rfl
  | .bracket call _ children _, agree => by
      rw [callees, List.forall_mem_append] at agree
      rw [steps, steps, evaluateFrom_congr _ children agree.2]
      cases call with
      | none => rfl
      | some call =>
          have same : other.find? call.name = c.registry.find? call.name :=
            agree.1 call.name (by simp)
          simp only [Registry.call_eq_of_find? same]

/-- **Registries that define the callees alike evaluate tokens alike.** -/
theorem evaluateFrom_congr (p : Progress) :
    (tokens : List Token) →
      (agree : ∀ name ∈ calleesAll tokens, other.find? name = c.registry.find? name) →
      evaluateFrom { c with registry := other } p tokens = evaluateFrom c p tokens
  | [], _ => rfl
  | token :: tokens, agree => by
      rw [calleesAll, List.forall_mem_append] at agree
      rw [evaluateFrom, evaluateFrom, steps_congr p.log p.source token agree.1]
      split
      · rfl
      · exact evaluateFrom_congr _ tokens agree.2

end

end Token

theorem compileText_congr {r other : Registry} {s : CompileSettings} {t : Text}
    (agree : ∀ name ∈ Token.calleesAll (Tree.parse s t 0).tokens,
      other.find? name = r.find? name) (source : Twister) :
    compileText other s t source = compileText r s t source := by
  have same : Token.evaluateFrom (s.setting other) (.start [] source) (Tree.parse s t 0).tokens =
      Token.evaluateFrom (s.setting r) (.start [] source) (Tree.parse s t 0).tokens :=
    Token.evaluateFrom_congr (c := s.setting r) _ _ agree
  simp only [compileText, Tree.evaluate, same]

/-- **A compilation only looks up the names that its text calls.** -/
theorem compile_congr {r other : Registry} (given : Given CompileSettings) (pattern : Value)
    {host : Host} (agree : ∀ s t, given.compileSettings host = .ok s → pattern = .text t →
      ∀ name ∈ Token.calleesAll (Tree.parse s t 0).tokens, other.find? name = r.find? name)
    (source : Option Twister) :
    compile other given pattern source host = compile r given pattern source host := by
  unfold compile
  cases accepted : given.compileSettings host with
  | error fault => rfl
  | ok s =>
      cases pattern with
      | text t =>
          have same := compileText_congr (agree s t accepted rfl)
          cases t with
          | nil => rfl
          | cons c rest => simp only [compileChecked, same]
      | _ => rfl

end StepPattern
