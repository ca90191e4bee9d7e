/-!
Programs that ask their surroundings one question at a time. The same program can be run on any state
that answers its questions, or stepped by hand between those of others.
-/

namespace Turnstile

inductive Program {Op : Type} (Reply : Op → Type) (α : Type) where
  | done (value : α)
  | ask (op : Op) (next : Reply op → Program Reply α)

namespace Program
variable {Op : Type} {Reply : Op → Type} {α β γ σ : Type}

def bind : Program Reply α → (α → Program Reply β) → Program Reply β
  | done a, f => f a
  | ask op next, f => ask op fun r => (next r).bind f

instance : Monad (Program Reply) where
  pure := done
  bind := bind

def call (op : Op) : Program Reply (Reply op) := ask op done

@[simp] theorem done_bind (a : α) (f : α → Program Reply β) : (done a).bind f = f a := rfl

@[simp] theorem ask_bind (op : Op) (next : Reply op → Program Reply α) (f : α → Program Reply β) :
    (ask op next).bind f = ask op fun r => (next r).bind f := rfl

theorem bind_done (p : Program Reply α) : p.bind done = p := by
  induction p with
  | done a => rfl
  | ask op next ih => simp only [ask_bind]; congr 1; funext r; exact ih r

theorem bind_assoc (p : Program Reply α) (f : α → Program Reply β) (g : β → Program Reply γ) :
    (p.bind f).bind g = p.bind fun a => (f a).bind g := by
  induction p with
  | done a => rfl
  | ask op next ih => simp only [ask_bind]; congr 1; funext r; exact ih r

instance : LawfulMonad (Program Reply) := LawfulMonad.mk' _ bind_done (fun _ _ => rfl) bind_assoc

/-- Asks each question of a program by a program over other questions. -/
def relay {Op' : Type} {Reply' : Op' → Type} (f : (op : Op) → Program Reply' (Reply op)) :
    Program Reply α → Program Reply' α
  | done a => done a
  | ask op next => (f op).bind fun r => (next r).relay f

/-- Runs a program on a state that answers its questions. Without an answer the program stays stuck,
and the state reached is all there is. -/
def run (answer : (op : Op) → σ → Option (Reply op) × σ) : Program Reply α → σ → Option α × σ
  | done a, s => (some a, s)
  | ask op next, s =>
    match answer op s with
    | (some r, s') => (next r).run answer s'
    | (none, s') => (none, s')

theorem run_bind (answer : (op : Op) → σ → Option (Reply op) × σ) (p : Program Reply α)
    (f : α → Program Reply β) (s : σ) :
    (p.bind f).run answer s =
      match p.run answer s with
      | (some a, s') => (f a).run answer s'
      | (none, s') => (none, s') := by
  induction p generalizing s with
  | done a => rfl
  | ask op next ih =>
    simp only [ask_bind, run]
    split <;> simp_all

/-- Runs a program on a state that answers every question. -/
def exec (answer : (op : Op) → σ → Reply op × σ) : Program Reply α → σ → α × σ
  | done a, s => (a, s)
  | ask op next, s =>
    let (r, s') := answer op s
    (next r).exec answer s'

theorem exec_bind (answer : (op : Op) → σ → Reply op × σ) (p : Program Reply α)
    (f : α → Program Reply β) (s : σ) :
    (p.bind f).exec answer s = (f (p.exec answer s).1).exec answer (p.exec answer s).2 := by
  induction p generalizing s with
  | done a => rfl
  | ask op next ih => simp only [ask_bind, exec]; exact ih _ _

end Program
end Turnstile
