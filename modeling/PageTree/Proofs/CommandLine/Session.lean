import Mathlib.Tactic.Lemma
import PageTree.CommandLine.Basic

/-!
# What a session prints

`Prints x lines outcome` says that a session ends in one way and prints some lines behind those that
are there, whatever was printed and logged before.  The lines of a sequence of sessions are those of
its parts, up to the first that ends the whole; what is logged is not looked at.
-/

namespace PageTree.CommandLine

variable {α β : Type}

/-- From every transcript, the session has the given outcome and prints the given lines. -/
def Prints (x : Session α) (lines : List String) (outcome : Except Ending α) : Prop :=
  ∀ t, (x.run t).1 = outcome ∧ (x.run t).2.printed = t.printed ++ lines

/-- A session that does nothing prints nothing. -/
lemma prints_pure (a : α) : Prints (pure a) [] (.ok a) := fun _ => ⟨rfl, (List.append_nil _).symm⟩

/-- A line is printed. -/
lemma prints_print (line : String) : Prints (Session.print line) [line] (.ok ()) :=
  fun _ => ⟨rfl, rfl⟩

/-- What is logged is not printed. -/
lemma prints_log (notices : List Notice) : Prints (Session.log notices) [] (.ok ()) :=
  fun _ => ⟨rfl, (List.append_nil _).symm⟩

/-- A session that is left prints nothing. -/
lemma prints_exit (code : Nat) : Prints (Session.exit code : Session α) [] (.error (.exit code)) :=
  fun _ => ⟨rfl, (List.append_nil _).symm⟩

/-- A crash prints nothing. -/
lemma prints_crash (e : Crash) : Prints (Session.crash e : Session α) [] (.error (.crash e)) :=
  fun _ => ⟨rfl, (List.append_nil _).symm⟩

/-- A result that is given prints nothing. -/
lemma prints_lift {x : Except Crash α} {a : α} (h : x = .ok a) :
    Prints (Session.lift x) [] (.ok a) := by
  subst h
  exact prints_pure a

/-- A session goes on from the transcript that its first part leaves, with its result. -/
lemma run_bind (x : Session α) (f : α → Session β) (t : Transcript) :
    (x >>= f).run t =
      match (x.run t).1 with
      | .ok a => (f a).run (x.run t).2
      | .error e => (.error e, (x.run t).2) := by
  change ExceptT.bindCont f (x.run t).1 (x.run t).2 = _
  cases (x.run t).1 <;> rfl

/-- A sequence prints what its parts print. -/
lemma Prints.bind {x : Session α} {f : α → Session β} {first rest : List String} {a : α}
    {outcome : Except Ending β} (hx : Prints x first (.ok a)) (hf : Prints (f a) rest outcome) :
    Prints (x >>= f) (first ++ rest) outcome := by
  intro t
  obtain ⟨hresult, hprinted⟩ := hx t
  obtain ⟨houtcome, hrest⟩ := hf (x.run t).2
  rw [run_bind, hresult]
  exact ⟨houtcome, by rw [hrest, hprinted, List.append_assoc]⟩

/-- A sequence is ended by its first part. -/
lemma Prints.bind_error {x : Session α} {lines : List String} {e : Ending}
    (hx : Prints x lines (.error e)) (f : α → Session β) :
    Prints (x >>= f) lines (.error e) := by
  intro t
  obtain ⟨hresult, hprinted⟩ := hx t
  rw [run_bind, hresult]
  exact ⟨rfl, hprinted⟩

/-- What is done silently before a session does not show. -/
lemma Prints.after {x : Session α} {f : α → Session β} {lines : List String} {a : α}
    {outcome : Except Ending β} (hx : Prints x [] (.ok a)) (hf : Prints (f a) lines outcome) :
    Prints (x >>= f) lines outcome :=
  hx.bind hf

/-- Errors that are logged one after the other are not printed. -/
lemma prints_forIn_logError {γ : Type} (texts : List γ) (f : γ → String) :
    Prints (forIn texts PUnit.unit fun x _ => do
      Session.logError (f x)
      pure (ForInStep.yield PUnit.unit)) [] (.ok ()) := by
  induction texts with
  | nil => exact prints_pure ()
  | cons x texts ih =>
    rw [List.forIn_cons]
    have hfirst : Prints (do
        Session.logError (f x)
        pure (ForInStep.yield PUnit.unit)) [] (.ok (ForInStep.yield PUnit.unit)) :=
      (prints_log _).after (prints_pure _)
    exact hfirst.after ih

end PageTree.CommandLine
