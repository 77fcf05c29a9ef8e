import PageLayers.Proofs.Interaction.Rely

/-! Programs put together from others: in a row, over a list, and with the calls of one made by
programs on another interface. -/

namespace PageLayers.Program

variable {I J : Interface} {σ τ α β ε ε' : Type} {s t u : σ}

instance : LawfulMonad (Program I) := by
  refine LawfulMonad.mk' _ ?_ (fun _ _ => rfl) ?_
  · intro α p
    induction p with
    | done a => rfl
    | call c next ih => exact congrArg (call c) (funext ih)
  · intro α β γ p f g
    induction p with
    | done a => rfl
    | call c next ih => exact congrArg (call c) (funext ih)

variable {E : Setting I σ} {post : α → σ → Prop} {fails : ε → σ → Prop}

theorem Ends.adapt {p : ExceptT ε (Program I) α} {wrap : ε → ε'} {fails : ε' → σ → Prop}
    (h : Ends E post (fun e s => fails (wrap e) s) p s) :
    Ends E post fails (ExceptT.adapt wrap p) s := by
  refine Keeps.bind (Keeps.mono h ?_)
  intro r s hr
  cases r with
  | ok a => exact hr
  | error e => exact hr

/-- A step for each item of a list: `P` says what holds while some items are left, and `Q` what
holds of each result. -/
theorem ends_mapM {l : List α} {f : α → ExceptT ε (Program I) β} {P : List α → σ → Prop}
    {Q : β → Prop} (h : P l s)
    (hstep : ∀ a rest s, P (a :: rest) s → Ends E (fun b t => P rest t ∧ Q b) fails (f a) s) :
    Ends E (fun bs t => P [] t ∧ ∀ b ∈ bs, Q b) fails (l.mapM f) s := by
  induction l generalizing s with
  | nil => exact ends_pure ⟨h, nofun⟩
  | cons a rest ih =>
    rw [List.mapM_cons]
    refine Ends.bind ((hstep a rest s h).mono ?_ fun _ _ hfail => hfail)
    rintro b t ⟨hrest, hb⟩
    refine Ends.bind ((ih hrest).mono ?_ fun _ _ hfail => hfail)
    rintro bs u ⟨hdone, hbs⟩
    exact ends_pure ⟨hdone, List.forall_mem_cons.2 ⟨hb, hbs⟩⟩

/-- What a program keeps, it keeps where each of its calls is made by a program that answers it in
the same way. `R` relates the states of the two. -/
theorem Keeps.through {F : Setting J τ} {translate : (c : I.Call) → Program J (I.Reply c)}
    {R : σ → τ → Prop} {p : Program I α} {x : τ} (h : p.Keeps E post s) (hx : R s x)
    (hrefl : ∀ s, E.rely s s)
    (hcall : ∀ c s x, R s x → E.allowed c s →
      (translate c).Keeps F (fun r y => ∃ t, R t y ∧ E.answers c s r t) x) :
    (p.run translate).Keeps F (fun a y => ∃ t, R t y ∧ post a t) x := by
  induction p generalizing s x with
  | done a => exact ⟨s, hx, h⟩
  | call c next ih =>
    obtain ⟨hallowed, hnext⟩ := h s (hrefl s)
    refine Keeps.bind ((hcall c s x hx hallowed).mono ?_)
    rintro r y ⟨t, hy, hr⟩
    exact ih r (hnext r t hr) hy

/-! ### Runs -/

variable {answers : (c : I.Call) → σ → I.Reply c → σ → Prop}
  {answers' : (c : J.Call) → τ → J.Reply c → τ → Prop}

theorem Runs.bind {p : Program I α} {f : α → Program I β} {a : α} {b : β}
    (hp : p.Runs answers s a t) (hf : (f a).Runs answers t b u) :
    (p >>= f).Runs answers s b u := by
  induction hp with
  | done => exact hf
  | call hr _ ih => exact .call hr (ih hf)

theorem Runs.then {p : ExceptT ε (Program I) α} {f : α → ExceptT ε (Program I) β} {a : α}
    {r : Except ε β} (hp : p.run.Runs answers s (.ok a) t) (hf : (f a).run.Runs answers t r u) :
    (p >>= f).run.Runs answers s r u :=
  Runs.bind hp hf

theorem Runs.map {p : ExceptT ε (Program I) α} {f : α → β} {r : Except ε α}
    (hp : p.run.Runs answers s r t) :
    (do return f (← p) : ExceptT ε (Program I) β).run.Runs answers s (r.map f) t := by
  cases r with
  | ok a => exact Runs.bind hp .done
  | error e => exact Runs.bind hp .done

theorem Runs.adapt {p : ExceptT ε (Program I) α} {wrap : ε → ε'} {r : Except ε α}
    (hp : p.run.Runs answers s r t) :
    (ExceptT.adapt wrap p).run.Runs answers s (r.mapError wrap) t :=
  Runs.bind hp .done

/-- Where programs can answer each call as a program is answered, they can run it as it runs. -/
theorem Runs.through {translate : (c : I.Call) → Program J (I.Reply c)} {R : σ → τ → Prop}
    {p : Program I α} {a : α} {x : τ} (h : p.Runs answers s a t) (hx : R s x)
    (hcall : ∀ c s r t x, R s x → answers c s r t →
      ∃ y, R t y ∧ (translate c).Runs answers' x r y) :
    ∃ y, R t y ∧ (p.run translate).Runs answers' x a y := by
  induction h generalizing x with
  | done => exact ⟨x, hx, .done⟩
  | call hr _ ih =>
    obtain ⟨y, hy, hrun⟩ := hcall _ _ _ _ x hx hr
    obtain ⟨z, hz, hrest⟩ := ih hy
    exact ⟨z, hz, hrun.bind hrest⟩

end PageLayers.Program
