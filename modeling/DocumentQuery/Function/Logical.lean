import DocumentQuery.Function.Operand

/-!
# Connectives, the conditional and the extremes

These functions look at outcomes, not only at values. In a conjunction a false operand decides, in a
disjunction a true one, whatever stands beside it; without a deciding operand the leftmost failing one gives
the error, and without one of those a null makes the outcome null. The conditional takes the branch that its
condition names, and a null condition takes the second. The extremes skip nulls and unset operands.
-/

namespace DocumentQuery.Logical

/-- The complaint about an operand that is neither boolean nor null. -/
def complaint (f : Function) : Outcome → EvalError
  | .error e => e
  | .value v => ⟨f, .typeMismatch .boolean v.kind⟩
  | _ => ⟨f, .unsetArgument⟩

/-- What is known of a conjunction or disjunction from some of its operands: the leftmost error, and whether
a null was met. -/
structure Pending where
  error : Option EvalError
  null : Bool

/-- The outcome when no operand decided. -/
def Pending.close (p : Pending) (otherwise : Bool) : Outcome :=
  match p.error with
  | some e => .error e
  | none => if p.null then .null else .boolean otherwise

/-- Conjunction (`decider` false) or disjunction (`decider` true) of the remaining operands. -/
def junction (f : Function) (decider : Bool) (p : Pending) : List Outcome → Outcome
  | [] => p.close !decider
  | .value (.boolean b) :: rest =>
    if b = decider then .boolean decider else junction f decider p rest
  | .null :: rest => junction f decider { p with null := true } rest
  | o :: rest =>
    junction f decider { p with error := p.error.or (some (complaint f o)) } rest

/-- Exclusive disjunction: the leftmost failing operand gives the error, then a null makes the outcome null;
`odd` is the parity of the true operands so far. -/
def parity (f : Function) (odd null : Bool) : List Outcome → Outcome
  | [] => if null then .null else .boolean odd
  | .value (.boolean b) :: rest => parity f (odd ^^ b) null rest
  | .null :: rest => parity f odd true rest
  | o :: _ => .error (complaint f o)

def negation (f : Function) : Outcome → Outcome
  | .value (.boolean b) => .boolean !b
  | .null => .null
  | o => .error (complaint f o)

def choice (f : Function) (condition ifTrue ifFalse : Outcome) : Outcome :=
  match condition with
  | .value (.boolean b) => if b then ifTrue else ifFalse
  | .null => ifFalse
  | o => .error (complaint f o)

/-- The outcome of the best value so far. -/
def ofBest : Option Value → Outcome
  | some v => .value v
  | none => .null

/-- The leftmost operand that stands in the wanted order to all others; the leftmost error comes before it. -/
def extreme (wanted : Ordering) (best : Option Value) : List Outcome → Outcome
  | [] => ofBest best
  | .value v :: rest =>
    match best with
    | some current => extreme wanted (some (if v.compare current = wanted then v else current)) rest
    | none => extreme wanted (some v) rest
  | .error e :: _ => .error e
  | _ :: rest => extreme wanted best rest

/-- The outcome of a logical function on the outcomes of its operands. -/
def apply (op : Logical) (args : List Outcome) : Outcome :=
  let f := Function.logical op
  match op, args with
  | and, args => junction f false ⟨none, false⟩ args
  | or, args => junction f true ⟨none, false⟩ args
  | xor, args => parity f false false args
  | not, [a] => negation f a
  | cond, [a, b, c] => choice f a b c
  | maximum, args => extreme .gt none args
  | minimum, args => extreme .lt none args
  | _, args => .error ⟨f, .wrongCount args.length⟩

end DocumentQuery.Logical
