import FleetControl.Error

/-!
# Programs that write in place

A program writes to what it works on as it goes along.  If it is refused, what it has
written until then stays written: there is no way back.
-/

namespace FleetControl

/-- Programs that change an `s` in place. -/
abbrev InPlace (s : Type) :=
  ExceptT Error (StateM s)

namespace InPlace

variable {α β σ τ : Type}

def on (x : InPlace σ α) (s : σ) : Except Error α × σ :=
  x s

def look (f : σ → Except Error α) : InPlace σ α :=
  fun s => (f s, s)

def check (bad : σ → Bool) (e : Error) : InPlace σ Unit :=
  look (fun s => if bad s then .error e else .ok ())

def write (f : σ → σ) : InPlace σ Unit :=
  fun s => (.ok (), f s)

def take (f : σ → α × σ) : InPlace σ α :=
  fun s => (.ok (f s).1, (f s).2)

def attempt (x : InPlace σ α) : InPlace σ (Option α) :=
  fun s => (.ok (x s).1.toOption, (x s).2)

def within (get : σ → τ) (put : τ → σ → σ) (x : InPlace τ α) : InPlace σ α :=
  fun s => ((x (get s)).1, put (x (get s)).2 s)

/-!
# Running
-/

theorem on_bind (x : InPlace σ α) (f : α → InPlace σ β) (s : σ) :
    on (x >>= f) s =
      match on x s with
      | (.ok a, s') => on (f a) s'
      | (.error e, s') => (.error e, s') := by
  unfold on
  change (ExceptT.bindCont f (x s).1) (x s).2 = _
  rcases x s with ⟨_ | _, _⟩ <;> rfl

theorem on_bind_of_ok {x : InPlace σ α} {f : α → InPlace σ β} {s s' : σ} {a : α}
    (h : on x s = (.ok a, s')) : on (x >>= f) s = on (f a) s' := by
  rw [on_bind, h]

theorem on_bind_of_error {x : InPlace σ α} {f : α → InPlace σ β} {s s' : σ} {e : Error}
    (h : on x s = (.error e, s')) : on (x >>= f) s = (.error e, s') := by
  rw [on_bind, h]

@[simp] theorem on_pure (a : α) (s : σ) : on (pure a) s = (.ok a, s) := rfl

@[simp] theorem on_throw (e : Error) (s : σ) :
    on (throw e : InPlace σ α) s = (.error e, s) := rfl

@[simp] theorem on_look (f : σ → Except Error α) (s : σ) : on (look f) s = (f s, s) := rfl

@[simp] theorem on_write (f : σ → σ) (s : σ) : on (write f) s = (.ok (), f s) := rfl

@[simp] theorem on_take (f : σ → α × σ) (s : σ) : on (take f) s = (.ok (f s).1, (f s).2) := rfl

/-!
# Programs without a trace of refusals
-/

def settle (result : Except Error (α × σ)) (s : σ) : Except Error α × σ :=
  match result with
  | .ok (a, s') => (.ok a, s')
  | .error e => (.error e, s)

@[simp] theorem settle_ok (a : α) (s s' : σ) : settle (.ok (a, s')) s = (.ok a, s') := rfl

@[simp] theorem settle_error (e : Error) (s : σ) :
    settle (.error e : Except Error (α × σ)) s = (.error e, s) := rfl

/-- The program does what the function says, and has written nothing when it is refused. -/
def Settles (x : InPlace σ α) (f : σ → Except Error (α × σ)) : Prop :=
  ∀ s, on x s = settle (f s) s

variable {x : InPlace σ α} {f : σ → Except Error (α × σ)}

theorem Settles.on_of_ok (settles : Settles x f) {s s' : σ} {a : α} (h : f s = .ok (a, s')) :
    on x s = (.ok a, s') := by
  rw [settles s, h]
  rfl

theorem Settles.on_of_error (settles : Settles x f) {s : σ} {e : Error} (h : f s = .error e) :
    on x s = (.error e, s) := by
  rw [settles s, h]
  rfl

theorem Settles.unchanged (settles : Settles x f) {s s' : σ} {e : Error}
    (h : on x s = (.error e, s')) : s' = s := by
  rw [settles s] at h
  unfold settle at h
  split at h
  · cases h
  · cases h
    rfl

theorem settles_take (f : σ → α × σ) : Settles (take f) (fun s => .ok (f s)) :=
  fun _ => rfl

/-- Reading comes first: a refusal is no trace yet. -/
theorem on_look_bind {f : σ → Except Error α} {k : α → InPlace σ β}
    {g : α → Except Error (β × σ)} {s : σ}
    (rest : ∀ a, f s = .ok a → on (k a) s = settle (g a) s) :
    on (look f >>= k) s = settle (f s >>= g) s := by
  rw [on_bind, on_look]
  cases h : f s with
  | error e => rfl
  | ok a => exact rest a h

theorem settles_look {f : σ → Except Error α} {k : α → InPlace σ β}
    {g : α → σ → Except Error (β × σ)} (rest : ∀ a, Settles (k a) (g a)) :
    Settles (look f >>= k) (fun s => f s >>= fun a => g a s) :=
  fun s => on_look_bind fun a _ => rest a s

theorem on_check_of_not {bad : σ → Bool} {e : Error} {y : InPlace σ β} {s : σ}
    (fine : ¬ bad s = true) : on (check bad e >>= fun _ => y) s = on y s := by
  rw [on_bind, check, on_look, if_neg fine]

theorem on_check_bind {bad : σ → Bool} {e : Error} {y : InPlace σ β}
    {result : Except Error (β × σ)} {s : σ}
    (rest : ¬ bad s = true → on y s = settle result s) :
    on (check bad e >>= fun _ => y) s =
      settle (if bad s then .error e else result) s := by
  by_cases h : bad s
  · rw [on_bind, check, on_look, if_pos h, if_pos h]
    rfl
  · rw [on_check_of_not h, if_neg h]
    exact rest h

theorem settles_check {bad : σ → Bool} {e : Error} {y : InPlace σ β}
    {g : σ → Except Error (β × σ)} (rest : Settles y g) :
    Settles (check bad e >>= fun _ => y) (fun s => if bad s then .error e else g s) :=
  fun s => on_check_bind fun _ => rest s

theorem settles_ite {c : Prop} [Decidable c] {y : InPlace σ α}
    {g : σ → Except Error (α × σ)} (yes : c → Settles x f) (no : ¬ c → Settles y g) :
    Settles (if c then x else y) (fun s => if c then f s else g s) := by
  by_cases h : c
  · simp only [if_pos h]
    exact yes h
  · simp only [if_neg h]
    exact no h

/-- What is written last cannot be refused. -/
theorem settles_write (f : σ → σ) (b : β) :
    Settles (write f >>= fun _ => pure b) (fun s => .ok (b, f s)) := by
  intro s
  rw [on_bind, on_write]
  rfl

theorem settles_throw (e : Error) :
    Settles (throw e : InPlace σ α) (fun _ => .error e) :=
  fun _ => rfl

theorem settles_pure (a : α) : Settles (pure a : InPlace σ α) (fun s => .ok (a, s)) :=
  fun _ => rfl

theorem settles_within {get : σ → τ} {put : τ → σ → σ} (same : ∀ s, put (get s) s = s)
    {x : InPlace τ α} {f : τ → Except Error (α × τ)} (settles : Settles x f) :
    Settles (within get put x) (fun s => (f (get s)).map (fun r => (r.1, put r.2 s))) := by
  intro s
  have part : x (get s) = settle (f (get s)) (get s) := settles (get s)
  show ((x (get s)).1, put (x (get s)).2 s) = _
  rw [part]
  dsimp only
  cases f (get s) with
  | error e => exact congrArg (Prod.mk (Except.error e)) (same s)
  | ok r => rfl

theorem Settles.on_attempt (settles : Settles x f) (s : σ) :
    on (attempt x) s =
      match f s with
      | .ok r => (.ok (some r.1), r.2)
      | .error _ => (.ok none, s) := by
  have h : x s = settle (f s) s := settles s
  show (Except.ok (x s).1.toOption, (x s).2) = _
  rw [h]
  cases f s <;> rfl

end InPlace
end FleetControl
