/-!
# Currying

A function of a tuple as a function that takes its arguments one by one, and back.
-/

namespace RecordQuery

variable {α β γ δ ε : Type}

/-- A function of a pair, one argument at a time. -/
def curryPair (f : α × β → γ) (a : α) (b : β) : γ :=
  f (a, b)

/-- A function of a triple, one argument at a time. -/
def curryTriple (f : α × β × γ → δ) (a : α) (b : β) (c : γ) : δ :=
  f (a, b, c)

/-- A function of a quadruple, one argument at a time. -/
def curryQuadruple (f : α × β × γ × δ → ε) (a : α) (b : β) (c : γ) (d : δ) : ε :=
  f (a, b, c, d)

/-- A function of two arguments on a pair. -/
def uncurryPair (g : α → β → γ) (arguments : α × β) : γ :=
  g arguments.1 arguments.2

/-- A function of three arguments on a triple. -/
def uncurryTriple (g : α → β → γ → δ) (arguments : α × β × γ) : δ :=
  g arguments.1 arguments.2.1 arguments.2.2

/-- A function of four arguments on a quadruple. -/
def uncurryQuadruple (g : α → β → γ → δ → ε) (arguments : α × β × γ × δ) : ε :=
  g arguments.1 arguments.2.1 arguments.2.2.1 arguments.2.2.2

/-- Uncurrying undoes currying of pairs. -/
theorem uncurryPair_curryPair (f : α × β → γ) : uncurryPair (curryPair f) = f := rfl

/-- Uncurrying undoes currying of triples. -/
theorem uncurryTriple_curryTriple (f : α × β × γ → δ) :
    uncurryTriple (curryTriple f) = f := rfl

/-- Uncurrying undoes currying of quadruples. -/
theorem uncurryQuadruple_curryQuadruple (f : α × β × γ × δ → ε) :
    uncurryQuadruple (curryQuadruple f) = f := rfl

end RecordQuery
