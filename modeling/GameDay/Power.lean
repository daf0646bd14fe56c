/-!
Powers with natural exponents are those of the numbers themselves, whatever other powers are in
scope.
-/

attribute [instance (1100), default_instance (20000)] instPowNat
