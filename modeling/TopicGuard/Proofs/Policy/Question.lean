import TopicGuard.AccessLevel
import TopicGuard.Policy.Consultation

/-!
Questions about a token, and a record of what the outside was asked.

A broker has three questions about a token, and each backend answers each of them with a consultation. To say what a
consultation does outside, it is run against a world that changes with every reply, in any way, and everything that
the world is asked goes into a record (`recording`). A consultation that is settled leaves the world and the record as
they are; one that asks adds one entry.
-/

set_option autoImplicit false

namespace TopicGuard.Policy

/-- A question about the holder of a token. -/
inductive Question where
  /-- Whether it may connect. -/
  | authenticate
  /-- Whether it is a superuser. -/
  | isPrivileged
  /-- Whether it may use the topic at the level, connected as that client. -/
  | checkAccess (topic clientId : String) (requested : AccessLevel)
deriving DecidableEq, Repr

namespace Consultation

variable {Asked Reply Answer World : Type} {respond : Asked → StateM World Reply} {w : World} {record : List Asked}

/-- A world that replies, and a record of what it was asked. -/
def recording (respond : Asked → StateM World Reply) (asked : Asked) : StateM (World × List Asked) Reply :=
  fun (w, record) => ((respond asked w).1, ((respond asked w).2, record ++ [asked]))

theorem run_recording_settled (answer : Answer) :
    (settled answer : Consultation Asked Reply Answer).run (recording respond) (w, record)
      = (answer, (w, record)) := rfl

theorem run_recording_ask (asked : Asked) (judge : Reply → Answer) :
    (ask asked judge).run (recording respond) (w, record)
      = (judge (respond asked w).1, ((respond asked w).2, record ++ [asked])) := rfl

end Consultation

end TopicGuard.Policy
