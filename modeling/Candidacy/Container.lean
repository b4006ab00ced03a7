/-!
# Containers

A container puts the parts of the program together. It makes one service and one source of companies,
which it gives to everyone who asks, and a new pipeline every time.
-/

namespace Candidacy

/-- What a container gives out on request. -/
inductive Supply where
  | service
  | companySource
  | pipeline
  deriving DecidableEq, Repr

/-- Whether two requests are given one and the same thing. -/
def Supply.isShared : Supply → Bool
  | .service | .companySource => true
  | .pipeline => false

end Candidacy
