import TopicGuard.AccessLevel
import TopicGuard.Topic.Filter

/-!
Grants.

A grant gives an access level on the topics that its filter covers. Grants have no precedence among themselves;
one that permits a request is enough, and none can take a permission away.
-/

set_option autoImplicit false

namespace TopicGuard

/-- An access level on the topics that a filter covers. -/
structure Grant where
  filter : String
  level : AccessLevel
deriving DecidableEq, Repr

namespace Grant

/-- The grant permits the requested level on the topic. -/
def permits (g : Grant) (topic : String) (requested : AccessLevel) : Bool :=
  AccessLevel.includes g.level requested && Filter.covers g.filter topic

/-- Some grant permits the requested level on the topic. -/
def anyPermits (grants : List Grant) (topic : String) (requested : AccessLevel) : Bool :=
  grants.any fun g => g.permits topic requested

end Grant

end TopicGuard
