/-!
  # Powers

  A power of natural numbers or integers is repeated multiplication.  Where algebra is in scope as
  well, a power could also be read as one of a monoid; the attribute below settles that `n ^ k` is
  the plain one everywhere in this library.
-/

namespace JobResults

attribute [instance (20000), default_instance 20000] instPowNat

end JobResults
