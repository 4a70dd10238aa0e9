import RelationAtlas.Log

/-!
# Reports

A piece of work reports a result, or the fault that stopped it, together with the remarks made on
the way.  Remarks made before a fault are kept.
-/

namespace RelationAtlas

/-- The remarks made during a piece of work, and its result or fault. -/
structure Report (ε α : Type) where
  remarks : List Log.Record
  result : Except ε α

namespace Report

variable {ε δ α β : Type}

/-- A result without remarks. -/
def pure (a : α) : Report ε α := ⟨[], .ok a⟩

/-- Work that goes on with the result of other work. -/
def bind (r : Report ε α) (f : α → Report ε β) : Report ε β :=
  match r.result with
  | .error e => ⟨r.remarks, .error e⟩
  | .ok a => ⟨r.remarks ++ (f a).remarks, (f a).result⟩

instance : Monad (Report ε) where
  pure := pure
  bind := bind

/-- A remark. -/
def note (level : Log.Level) (message : Text) : Report ε Unit := ⟨[⟨level, message⟩], .ok ()⟩

/-- Several remarks. -/
def noteAll (records : List Log.Record) : Report ε Unit := ⟨records, .ok ()⟩

/-- A result or fault without remarks. -/
def ofExcept (result : Except ε α) : Report ε α := ⟨[], result⟩

/-- The same work with its fault seen as another kind of fault. -/
def mapError (f : ε → δ) (r : Report ε α) : Report δ α := ⟨r.remarks, r.result.mapError f⟩

/-- The result of a result is that result. -/
@[simp] theorem result_pure (a : α) : (Pure.pure a : Report ε α).result = .ok a := rfl

/-- The result of work in two steps. -/
@[simp] theorem result_bind (r : Report ε α) (f : α → Report ε β) :
    (r >>= f).result = r.result >>= fun a => (f a).result := by
  change (bind r f).result = _
  unfold bind
  cases r.result <;> rfl

/-- The remarks of work in two steps, when the first step has a result. -/
theorem remarks_bind_of_ok {r : Report ε α} {a : α} (h : r.result = .ok a) (f : α → Report ε β) :
    (r >>= f).remarks = r.remarks ++ (f a).remarks := by
  change (bind r f).remarks = _
  unfold bind
  rw [h]

/-- A remark has no effect on the result. -/
@[simp] theorem result_note (level : Log.Level) (message : Text) :
    (note level message : Report ε Unit).result = .ok () := rfl

/-- Remarks have no effect on the result. -/
@[simp] theorem result_noteAll (records : List Log.Record) :
    (noteAll records : Report ε Unit).result = .ok () := rfl

/-- The result of a result without remarks. -/
@[simp] theorem result_ofExcept (result : Except ε α) : (ofExcept result).result = result := rfl

/-- The result of work whose fault is seen as another kind of fault. -/
@[simp] theorem result_mapError (f : ε → δ) (r : Report ε α) :
    (r.mapError f).result = r.result.mapError f := rfl

end Report

end RelationAtlas
