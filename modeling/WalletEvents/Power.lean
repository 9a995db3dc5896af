/-!
# Powers

Natural numbers and integers have powers of their own, and powers as members of algebraic
structures. The former are preferred here, so that `^` means the same in the modules that know of
algebraic structures and in those that do not.
-/

attribute [instance (10000)] instPowNat
attribute [default_instance 20000] instPowNat
