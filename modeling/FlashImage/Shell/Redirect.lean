import FlashImage.Shell.Expansion

/-!
How redirections change what the descriptors of a shell lead to.

What redirections lead to is found for all of them before the first of them takes effect. They can
be taken back, and each descriptor then leads to where it has led before.
-/

set_option autoImplicit false
set_option relaxedAutoImplicit false

namespace FlashImage.Shell

/-- A redirection after what it leads to has been found. -/
inductive Opening
  | file (descriptor : Nat) (kind : RedirectKind) (path : String)
  | copy (descriptor source : Nat)
  | close (descriptor : Nat)
  | document (descriptor : Nat) (text : Word)

def Opening.descriptor : Opening → Nat
  | .file d _ _ => d
  | .copy d _ => d
  | .close d => d
  | .document d _ => d

def openCopy (descriptor : Nat) (source : String) : Interpreting Opening := do
  match source.toList with
  | ['-'] => return .close descriptor
  | [c] => if c.isDigit then return .copy descriptor (c.toNat - '0'.toNat)
  | _ => pure ()
  modify fun st => { st with line := st.readLine }
  Interpreting.fail "Syntax error: Bad fd number"

def findOpening (capture : Capture) : Redirection → Interpreting Opening
  | .mk d kind target => do
    match kind with
    | .document => return .document d target
    | .copyInput => openCopy d (← expandText capture target)
    | .copyOutput => openCopy d (← expandText capture target)
    | kind => return .file d kind (← expandText capture target)

def replaced (descriptors : List (Nat × Nat)) (d : Nat) (id : Option Nat) : List (Nat × Nat) :=
  let others := descriptors.filter (·.1 ≠ d)
  match id with
  | some id => (d, id) :: others
  | none => others

/-- The state in which a descriptor leads to an open file, or is closed. -/
def State.withDescriptor (st : State) (d : Nat) (id : Option Nat) : State :=
  { st with process := { st.process with descriptors := replaced st.process.descriptors d id } }

def openWording (kind : RedirectKind) (path : String) (fault : FileFault) : String :=
  match kind, fault with
  | .read, .notFound => "cannot open " ++ path ++ ": No such file"
  | .read, .notDirectory => "cannot open " ++ path ++ ": No such file"
  | .read, fault => "cannot open " ++ path ++ ": " ++ faultWording fault
  | _, .notFound => "cannot create " ++ path ++ ": Directory nonexistent"
  | _, .notDirectory => "cannot create " ++ path ++ ": Directory nonexistent"
  | _, fault => "cannot create " ++ path ++ ": " ++ faultWording fault

def openFile (kind : RedirectKind) (path : String) : Interpreting Nat := do
  let st ← get
  let mode : OpenMode :=
    match kind with
    | .read => .read
    | .append => .append
    | .update => .update
    | _ => .write
  if kind = .write && st.has 'C' && st.files.isFile (ByteText.decode path) then
    Interpreting.fail ("cannot create " ++ path ++ ": File exists")
  match st.process.openPath path mode with
  | .ok (id, w) =>
    set (st.withWorld w)
    return id
  | .error fault => Interpreting.fail (openWording kind path fault)

def Opening.apply (capture : Capture) (o : Opening) : Interpreting Unit := do
  match o with
  | .file d kind path =>
    let id ← openFile kind path
    modify fun st => st.withDescriptor d (some id)
  | .copy d source =>
    match (← get).process.descriptors.lookup source with
    | some id => modify fun st => st.withDescriptor d (some id)
    | none => Interpreting.fail (toString source ++ ": Bad file descriptor")
  | .close d => modify fun st => st.withDescriptor d none
  | .document d text =>
    let b := ByteText.toBytes (textOf (← expandWord capture false wordDepth text))
    modify fun st =>
      let (id, world) := st.process.world.addBytes b
      (st.withWorld world).withDescriptor d (some id)

/-- Lets redirections take effect. The result says whether all of them have. -/
def redirect (capture : Capture) (os : List Opening) : Interpreting Bool := fun st =>
  match os.forM (Opening.apply capture) st with
  | (.ok (), st) => (.ok true, st)
  | (.error .fault, st) => (.ok false, st)
  | (.error stop, st) => (.error stop, st)

def restoring {α : Type} (os : List Opening) (step : Interpreting α) : Interpreting α := do
  let before := (← get).process.descriptors
  Interpreting.ensuring (modify fun st => os.foldl (restore before) st) step
where
  restore (before : List (Nat × Nat)) (st : State) (o : Opening) : State :=
    st.withDescriptor o.descriptor (before.lookup o.descriptor)

/-- Among the others, the descriptor that is left out leads to nothing. -/
theorem lookup_others (descriptors : List (Nat × Nat)) (d e : Nat) :
    (descriptors.filter (·.1 ≠ d)).lookup e = if e = d then none else descriptors.lookup e := by
  induction descriptors with
  | nil => simp
  | cons p rest ih =>
    obtain ⟨f, x⟩ := p
    by_cases hf : f = d
    · rw [List.filter_cons_of_neg (by simp [hf]), ih]
      by_cases he : e = d
      · simp [he]
      · rw [if_neg he, if_neg he, List.lookup_cons, beq_false_of_ne (by omega)]
    · rw [List.filter_cons_of_pos (by simp [hf]), List.lookup_cons, List.lookup_cons, ih]
      by_cases hef : e = f
      · subst hef
        simp [hf]
      · simp only [beq_false_of_ne hef]

theorem lookup_replaced (descriptors : List (Nat × Nat)) (d e : Nat) (id : Option Nat) :
    (replaced descriptors d id).lookup e = if e = d then id else descriptors.lookup e := by
  cases id with
  | none =>
    rw [replaced, lookup_others]
  | some x =>
    rw [replaced, List.lookup_cons, lookup_others]
    by_cases he : e = d
    · simp [he]
    · simp only [beq_false_of_ne he, if_neg he]

end FlashImage.Shell
