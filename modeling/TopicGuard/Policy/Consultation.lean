/-!
Decisions that may need one answer from outside.

A decision is settled at once, or it asks exactly one question and judges the reply. That no decision asks
twice, and that one settled at once asks nothing, is part of the type.
-/

set_option autoImplicit false

namespace TopicGuard.Policy

/-- A decision, or one question with a way to judge the reply. -/
inductive Consultation (Question Reply Answer : Type) where
  | settled (answer : Answer)
  | ask (question : Question) (judge : Reply → Answer)

namespace Consultation

variable {Question Reply Answer : Type}

/-- The question that is asked, if any. -/
def question? : Consultation Question Reply Answer → Option Question
  | .settled _ => none
  | .ask question _ => some question

/-- The answer, given how questions are replied to. -/
def answer (respond : Question → Reply) : Consultation Question Reply Answer → Answer
  | .settled answer => answer
  | .ask question judge => judge (respond question)

/-- The answer, where replying to a question may be an effect. -/
def run {m : Type → Type} [Monad m] (respond : Question → m Reply) :
    Consultation Question Reply Answer → m Answer
  | .settled answer => pure answer
  | .ask question judge => return judge (← respond question)

/-- The same consultation with another answer. -/
def map {Answer' : Type} (f : Answer → Answer') :
    Consultation Question Reply Answer → Consultation Question Reply Answer'
  | .settled answer => .settled (f answer)
  | .ask question judge => .ask question fun reply => f (judge reply)

@[simp] theorem question?_map {Answer' : Type} (f : Answer → Answer')
    (c : Consultation Question Reply Answer) : (c.map f).question? = c.question? := by
  cases c <;> rfl

@[simp] theorem answer_map {Answer' : Type} (f : Answer → Answer') (respond : Question → Reply)
    (c : Consultation Question Reply Answer) : (c.map f).answer respond = f (c.answer respond) := by
  cases c <;> rfl

end Consultation

end TopicGuard.Policy
