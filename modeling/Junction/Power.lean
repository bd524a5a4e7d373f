/-! # Powers of counts

Most bounds of counters are powers of two. They are the powers of the standard library, whichever
other powers of counts a module knows of.
-/

attribute [instance (high), default_instance (high + 1)] instPowNat
