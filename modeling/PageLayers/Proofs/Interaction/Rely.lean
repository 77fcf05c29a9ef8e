import PageLayers.Interaction.Program

/-! Programs that share a state with others. Between any two calls of a program the others may have
changed the state, so what is shown of a program may only rest on what their changes leave. -/

namespace PageLayers

variable {I : Interface} {σ α β ε : Type}

/-- How a state may have changed before a call of a program, which calls the program may then make,
and how they may be answered. -/
structure Setting (I : Interface) (σ : Type) where
  rely : σ → σ → Prop
  allowed : I.Call → σ → Prop
  answers : (c : I.Call) → σ → I.Reply c → σ → Prop

namespace Program

variable {E : Setting I σ} {s t : σ}

/-- Each call of a program is allowed when it is made, whatever the answers before it and the
changes between them, and the result suits the state that the last call leaves. -/
def Keeps (E : Setting I σ) (post : α → σ → Prop) : Program I α → σ → Prop
  | done a, s => post a s
  | call c next, s =>
    ∀ t, E.rely s t → E.allowed c t ∧ ∀ r u, E.answers c t r u → (next r).Keeps E post u

theorem Keeps.mono {post post' : α → σ → Prop} {p : Program I α} (h : p.Keeps E post s)
    (hpost : ∀ a s, post a s → post' a s) : p.Keeps E post' s := by
  induction p generalizing s with
  | done a => exact hpost a s h
  | call c next ih =>
    intro t ht
    obtain ⟨hallowed, hnext⟩ := h t ht
    exact ⟨hallowed, fun r u hr => ih r (hnext r u hr)⟩

theorem Keeps.bind {post : β → σ → Prop} {p : Program I α} {f : α → Program I β}
    (h : p.Keeps E (fun a s => (f a).Keeps E post s) s) : (p.bind f).Keeps E post s := by
  induction p generalizing s with
  | done a => exact h
  | call c next ih =>
    intro t ht
    obtain ⟨hallowed, hnext⟩ := h t ht
    exact ⟨hallowed, fun r u hr => ih r (hnext r u hr)⟩

/-- A program that waits for its next call stays good while the others go on. -/
theorem Keeps.of_rely {post : α → σ → Prop} {p : Program I α} (h : p.Keeps E post s)
    (ht : E.rely s t) (htrans : ∀ s t u, E.rely s t → E.rely t u → E.rely s u)
    (hpost : ∀ a, post a s → post a t) : p.Keeps E post t := by
  cases p with
  | done a => exact hpost a h
  | call c next =>
    intro u hu
    exact h u (htrans s t u ht hu)

/-- Running a program alone is one of the ways in which it can run. -/
theorem Keeps.runOn {answer : (c : I.Call) → σ → I.Reply c × σ} {post : α → σ → Prop}
    {p : Program I α} (h : p.Keeps E post s) (hrefl : ∀ s, E.rely s s)
    (hanswer : ∀ c s, E.allowed c s → E.answers c s (answer c s).1 (answer c s).2) :
    post (p.runOn answer s).1 (p.runOn answer s).2 := by
  induction p generalizing s with
  | done a => exact h
  | call c next ih =>
    obtain ⟨hallowed, hnext⟩ := h s (hrefl s)
    exact ih _ (hnext _ _ (hanswer c s hallowed))

/-- How a program can run alone to its end when each call is answered in one of some ways. -/
inductive Runs (answers : (c : I.Call) → σ → I.Reply c → σ → Prop) :
    Program I α → σ → α → σ → Prop where
  | done {a : α} {s : σ} : Runs answers (done a) s a s
  | call {c : I.Call} {next : I.Reply c → Program I α} {r : I.Reply c} {a : α} {s t u : σ}
      (hr : answers c s r t) (hrest : Runs answers (next r) t a u) :
      Runs answers (call c next) s a u

theorem Runs.mono {answers answers' : (c : I.Call) → σ → I.Reply c → σ → Prop} {p : Program I α}
    {a : α} (h : p.Runs answers s a t) (hanswers : ∀ c s r t, answers c s r t → answers' c s r t) :
    p.Runs answers' s a t := by
  induction h with
  | done => exact .done
  | call hr hrest ih => exact .call (hanswers _ _ _ _ hr) ih

theorem Keeps.of_runs {post : α → σ → Prop} {p : Program I α} {a : α} (h : p.Keeps E post s)
    (hrun : p.Runs E.answers s a t) (hrefl : ∀ s, E.rely s s) : post a t := by
  induction hrun with
  | done => exact h
  | call hr hrest ih => exact ih ((h _ (hrefl _)).2 _ _ hr)

/-- Running a program on a state is one of its runs; `P` says of what states answers are known. -/
theorem runs_runOn {answers : (c : I.Call) → σ → I.Reply c → σ → Prop}
    {answer : (c : I.Call) → σ → I.Reply c × σ} {P : σ → Prop}
    (hanswer : ∀ c s, P s → answers c s (answer c s).1 (answer c s).2 ∧ P (answer c s).2)
    (p : Program I α) (hs : P s) :
    p.Runs answers s (p.runOn answer s).1 (p.runOn answer s).2 := by
  induction p generalizing s with
  | done a => exact .done
  | call c next ih =>
    obtain ⟨hr, ht⟩ := hanswer c s hs
    exact .call hr (ih _ ht)

/-- The same for a program that may end with an error. -/
def Ends (E : Setting I σ) (post : α → σ → Prop) (fails : ε → σ → Prop)
    (p : ExceptT ε (Program I) α) (s : σ) : Prop :=
  Keeps E (fun r s => match r with
    | .ok a => post a s
    | .error e => fails e s) p.run s

variable {post : α → σ → Prop} {fails : ε → σ → Prop}

theorem ends_pure {a : α} (h : post a s) :
    Ends E post fails (pure a : ExceptT ε (Program I) α) s := h

theorem ends_throw {e : ε} (h : fails e s) :
    Ends E post fails (throw e : ExceptT ε (Program I) α) s := h

theorem Ends.bind {post : β → σ → Prop} {p : ExceptT ε (Program I) α}
    {f : α → ExceptT ε (Program I) β}
    (h : Ends E (fun a s => Ends E post fails (f a) s) fails p s) :
    Ends E post fails (p >>= f) s := by
  refine Keeps.bind (Keeps.mono h ?_)
  intro r s hr
  cases r with
  | ok a => exact hr
  | error e => exact hr

theorem Ends.mono {post' : α → σ → Prop} {fails' : ε → σ → Prop} {p : ExceptT ε (Program I) α}
    (h : Ends E post fails p s) (hpost : ∀ a s, post a s → post' a s)
    (hfails : ∀ e s, fails e s → fails' e s) : Ends E post' fails' p s := by
  refine Keeps.mono h ?_
  intro r s hr
  cases r with
  | ok a => exact hpost a s hr
  | error e => exact hfails e s hr

/-- A program that never ends with an error gives a result when it runs alone. -/
theorem Ends.runOn {answer : (c : I.Call) → σ → I.Reply c × σ} {p : ExceptT ε (Program I) α}
    (h : Ends E post (fun _ _ => False) p s) (hrefl : ∀ s, E.rely s s)
    (hanswer : ∀ c s, E.allowed c s → E.answers c s (answer c s).1 (answer c s).2) :
    ∃ a t, p.run.runOn answer s = (.ok a, t) ∧ post a t := by
  have hpost := Keeps.runOn h hrefl hanswer
  cases hrun : p.run.runOn answer s with
  | mk r t =>
    rw [hrun] at hpost
    cases r with
    | ok a => exact ⟨a, t, rfl, hpost⟩
    | error e => exact hpost.elim

end Program

end PageLayers
