import Mathlib.Data.List.Basic
import Mathlib.Algebra.Group.Int
import QubeticsSdk.Unicode

/-! # Go runtime primitives

    The part of Go's runtime and standard library that the transaction
    client of the SDK reads:

    * byte slices and durations;
    * `error` values as the client builds them (`errors.New`, and
      `fmt.Errorf` with one `%w` verb), with their texts;
    * the string functions the error classifiers and the key codec use
      (`strings.ToLower`, `strings.Contains`, `strings.TrimSpace`,
      `strings.Split`);
    * how a call ends: a function whose last result is an `error`
      returns a value, returns an error, or panics (`Result`); a function
      around a loop that may retry without bound returns, panics, or is
      still running when the fuel runs out (`Exec`).
-/

namespace Qubetics

/-! ## Section 1: Byte slices and durations -/

/-- A Go `[]byte`; `nil` and the empty slice are both `[]`. -/
abbrev Bytes := List UInt8

/-- A Go `time.Duration`, in nanoseconds. -/
abbrev Duration := Int

/-! ## Section 2: Errors -/

/-- A Go `error` as the client builds them: a leaf (`errors.New`, or
    `fmt.Errorf` without `%w`), or `fmt.Errorf` with one `%w` verb whose
    format puts `pre` before and `post` after the wrapped error's text. -/
inductive Error where
  | new (msg : String)
  | wrap (pre : String) (inner : Error) (post : String)
  deriving DecidableEq, Repr

namespace Error

/-- `err.Error()`. -/
def text : Error → String
  | new msg => msg
  | wrap pre inner post => pre ++ inner.text ++ post

/-- `fmt.Errorf(pre + "%w", err)`, the form every wrapping in the client
    takes. -/
def errorf (pre : String) (e : Error) : Error := wrap pre e ""

/-- `errors.Is(err, target)`: `target` is on the chain of wrapped errors. -/
def is (target : Error) : Error → Bool
  | new msg => new msg == target
  | wrap pre inner post => wrap pre inner post == target || is target inner

@[simp] theorem text_errorf (pre : String) (e : Error) :
    (errorf pre e).text = pre ++ e.text := by
  simp [errorf, text]

end Error

/-! ## Section 3: Strings -/

/-- `sub` occurs in `s` as a contiguous run of characters. -/
def containsChars : List Char → List Char → Bool
  | [], sub => sub.isEmpty
  | c :: s, sub => sub.isPrefixOf (c :: s) || containsChars s sub

/-- `strings.Contains(s, substr)`. -/
def stringsContains (s substr : String) : Bool :=
  containsChars s.toList substr.toList

/-- `strings.ToLower(s)`: its ASCII fast path and its `Map(unicode.ToLower, s)`
    both lower each character as `unicodeToLower` does. -/
def stringsToLower (s : String) : String := ⟨s.toList.map unicodeToLower⟩

/-- `unicode.IsSpace`. -/
def isSpace (c : Char) : Bool :=
  c = ' ' || (9 ≤ c.toNat && c.toNat ≤ 13) || c.toNat = 0x85 || c.toNat = 0xA0 ||
    c.toNat = 0x1680 || (0x2000 ≤ c.toNat && c.toNat ≤ 0x200A) || c.toNat = 0x2028 ||
    c.toNat = 0x2029 || c.toNat = 0x202F || c.toNat = 0x205F || c.toNat = 0x3000

/-- `strings.TrimSpace(s)`. -/
def stringsTrimSpace (s : String) : String :=
  ⟨((s.toList.dropWhile isSpace).reverse.dropWhile isSpace).reverse⟩

/-- `strings.Split(s, sep)` for a one-character separator. -/
def stringsSplit (s : String) (sep : Char) : List String :=
  (s.toList.splitOn sep).map String.mk

theorem dropWhile_of_forall {p : Char → Bool} {l : List Char} (h : ∀ c ∈ l, p c = false) :
    l.dropWhile p = l := by
  cases l with
  | nil => rfl
  | cons c l => simp [List.dropWhile, h c (List.mem_cons_self c l)]

/-- A string with no white space is its own `TrimSpace`. -/
theorem stringsTrimSpace_of_forall {s : String} (h : ∀ c ∈ s.data, isSpace c = false) :
    stringsTrimSpace s = s := by
  rw [stringsTrimSpace, String.toList, dropWhile_of_forall h,
    dropWhile_of_forall (fun c hc => h c (List.mem_reverse.mp hc)), List.reverse_reverse]

/-- Splitting `a ++ sep ++ b` gives `a` and `b` when neither holds `sep`. -/
theorem stringsSplit_append {a b : String} {sep : Char} (ha : sep ∉ a.data) (hb : sep ∉ b.data) :
    stringsSplit (a ++ ⟨[sep]⟩ ++ b) sep = [a, b] := by
  have h := List.splitOn_intercalate [a.data, b.data] sep (by simp [ha, hb]) (by simp)
  simp only [List.intercalate, List.intersperse, List.flatten, List.append_nil,
    List.singleton_append] at h
  rw [stringsSplit, String.toList, String.data_append, String.data_append, List.append_assoc]
  exact (congrArg (List.map String.mk) h).trans rfl

/-- No occurrence of `sub` can start inside `p`: every nonempty suffix of
    `p` disagrees with `sub` within their common length. -/
def startsNowhere (sub : List Char) : List Char → Bool
  | [] => true
  | c :: p => !(c :: p).isPrefixOf sub && !sub.isPrefixOf (c :: p) && startsNowhere sub p

theorem isPrefixOf_append_of_disagree {t sub : List Char} (s : List Char)
    (h₁ : t.isPrefixOf sub = false) (h₂ : sub.isPrefixOf t = false) :
    sub.isPrefixOf (t ++ s) = false := by
  induction t generalizing sub with
  | nil => simp at h₁
  | cons a t ih =>
    cases sub with
    | nil => simp at h₂
    | cons b sub =>
      by_cases hab : b = a
      · subst hab
        simp only [List.isPrefixOf, beq_self_eq_true, Bool.true_and] at h₁ h₂ ⊢
        exact ih h₁ h₂
      · simp [List.isPrefixOf, hab]

/-- A prefix in which no occurrence of `sub` can start adds none. -/
theorem containsChars_append_of_startsNowhere {sub p : List Char} (s : List Char)
    (h : startsNowhere sub p = true) : containsChars (p ++ s) sub = containsChars s sub := by
  induction p with
  | nil => rfl
  | cons c p ih =>
    simp only [startsNowhere, Bool.and_eq_true, Bool.not_eq_true'] at h
    have hstart := isPrefixOf_append_of_disagree s h.1.1 h.1.2
    rw [List.cons_append] at hstart ⊢
    rw [containsChars, hstart, ih h.2, Bool.false_or]

theorem stringsToLower_append (a b : String) :
    stringsToLower (a ++ b) = ⟨(stringsToLower a).data ++ (stringsToLower b).data⟩ := by
  simp [stringsToLower, String.toList]

/-- A wrapping prefix in whose lower case no occurrence of `sub` can start
    leaves `strings.Contains(strings.ToLower(_), sub)` as it was. -/
theorem stringsContains_lower_append {pre sub : String} (s : String)
    (h : startsNowhere sub.data (stringsToLower pre).data = true) :
    stringsContains (stringsToLower (pre ++ s)) sub = stringsContains (stringsToLower s) sub := by
  rw [stringsContains, stringsToLower_append]
  exact containsChars_append_of_startsNowhere _ h

/-! ## Section 4: How a call ends -/

/-- The end of a Go call `(v, err)` that sets exactly one of the two: it
    returns `v` with a `nil` error, returns the error `e`, or panics. -/
inductive Result (α : Type) where
  | ok (a : α)
  | err (e : Error)
  | panic (msg : String)
  deriving DecidableEq, Repr

namespace Result

instance : Monad Result where
  pure := ok
  bind x f := match x with
    | ok a => f a
    | err e => err e
    | panic msg => panic msg

instance : LawfulMonad Result :=
  LawfulMonad.mk' Result (fun x => by cases x <;> rfl) (fun _ _ => rfl)
    (fun x _ _ => by cases x <;> rfl)

@[simp] theorem ok_bind {α β : Type} (a : α) (f : α → Result β) : (ok a >>= f) = f a := rfl

@[simp] theorem err_bind {α β : Type} (e : Error) (f : α → Result β) :
    (err e >>= f) = err e := rfl

@[simp] theorem panic_bind {α β : Type} (msg : String) (f : α → Result β) :
    (panic msg >>= f) = panic msg := rfl

/-- `if err != nil { return nil, fmt.Errorf(pre + "%w", err) }`. -/
def errorf {α : Type} (pre : String) : Result α → Result α
  | ok a => ok a
  | err e => err (Error.errorf pre e)
  | panic msg => panic msg

@[simp] theorem errorf_ok {α : Type} (pre : String) (a : α) : (ok a).errorf pre = ok a := rfl

@[simp] theorem errorf_err {α : Type} (pre : String) (e : Error) :
    (err e : Result α).errorf pre = err (Error.errorf pre e) := rfl

@[simp] theorem errorf_panic {α : Type} (pre msg : String) :
    (panic msg : Result α).errorf pre = panic msg := rfl

/-- The call returned a non-`nil` error. -/
def isErr {α : Type} : Result α → Bool
  | err _ => true
  | _ => false

theorem isErr_iff {α : Type} {r : Result α} : r.isErr = true ↔ ∃ e, r = err e := by
  cases r <;> simp [isErr]

/-- A Go call that cannot panic, seen as a `Result`. -/
def ofExcept {α : Type} : Except Error α → Result α
  | .ok a => ok a
  | .error e => err e

@[simp] theorem ofExcept_ok {α : Type} (a : α) : ofExcept (.ok a) = ok a := rfl

@[simp] theorem ofExcept_error {α : Type} (e : Error) : ofExcept (.error e : Except Error α) = err e :=
  rfl

/-- A call that returns `(v, err)` does not panic. -/
theorem ofExcept_ne_panic {α : Type} (x : Except Error α) (msg : String) : ofExcept x ≠ panic msg := by
  cases x <;> simp

theorem bind_eq_ok {α β : Type} {x : Result α} {f : α → Result β} {b : β}
    (h : (x >>= f) = ok b) : ∃ a, x = ok a ∧ f a = ok b := by
  cases x <;> first | exact ⟨_, rfl, h⟩ | cases h

@[simp] theorem errorf_eq_ok {α : Type} {pre : String} {x : Result α} {a : α} :
    x.errorf pre = ok a ↔ x = ok a := by
  cases x <;> simp [errorf]

@[simp] theorem ofExcept_eq_ok {α : Type} {x : Except Error α} {a : α} :
    ofExcept x = ok a ↔ x = .ok a := by
  cases x <;> simp [ofExcept]

end Result

/-- The end of a Go call: it returns `a`, it panics with `msg`, or it is
    still running when the fuel given to its unbounded loops runs out. -/
inductive Exec (α : Type) where
  | ret (a : α)
  | panic (msg : String)
  | outOfFuel
  deriving DecidableEq, Repr

namespace Exec

instance : Monad Exec where
  pure := ret
  bind x f := match x with
    | ret a => f a
    | panic msg => panic msg
    | outOfFuel => outOfFuel

instance : LawfulMonad Exec :=
  LawfulMonad.mk' Exec (fun x => by cases x <;> rfl) (fun _ _ => rfl)
    (fun x _ _ => by cases x <;> rfl)

@[simp] theorem pure_eq {α : Type} (a : α) : (pure a : Exec α) = ret a := rfl

@[simp] theorem ret_bind {α β : Type} (a : α) (f : α → Exec β) :
    (ret a >>= f) = f a := rfl

@[simp] theorem panic_bind {α β : Type} (msg : String) (f : α → Exec β) :
    (panic msg >>= f) = panic msg := rfl

@[simp] theorem outOfFuel_bind {α β : Type} (f : α → Exec β) :
    ((outOfFuel : Exec α) >>= f) = outOfFuel := rfl

end Exec

end Qubetics
