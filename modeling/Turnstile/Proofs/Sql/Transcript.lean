import Turnstile.Simulation.Database

/-!
What passes between a program and a database, and rules for what may be sent, given all that was sent and
answered before.
-/

namespace Turnstile

namespace Program
variable {Op Op' : Type} {Reply : Op → Type} {Reply' : Op' → Type} {α β : Type}

/-- A sequence of programs is relayed part by part. -/
theorem relay_bind (f : (op : Op) → Program Reply' (Reply op)) (p : Program Reply α) (g : α → Program Reply β) :
    (p.bind g).relay f = (p.relay f).bind fun a => (g a).relay f := by
  induction p with
  | done a => rfl
  | ask op next ih =>
    rw [ask_bind, relay, relay, bind_assoc]
    congr 1
    funext r
    exact ih r

end Program

namespace Sql
variable {α β σ : Type}

/-- A statement with what came back. -/
structure Answered where
  statement : Statement
  reply : Except Refusal Response

/-- The statements that a program sends, each with the answer. -/
def answered (answer : (c : Call) → σ → c.Reply × σ) : Program Call.Reply α → σ → List Answered
  | .done _, _ => []
  | .ask (.send statement) next, s =>
    let (reply, s') := answer (.send statement) s
    ⟨statement, reply⟩ :: answered answer (next reply) s'
  | .ask c next, s =>
    let (reply, s') := answer c s
    answered answer (next reply) s'

/-- Whatever it is answered, a program that goes on from a log sends only what the rule allows, and ends well. -/
def Follows (rule : List Answered → Statement → Prop) (post : α → List Answered → Prop) :
    Program Call.Reply α → List Answered → Prop
  | .done a, log => post a log
  | .ask (.send statement) next, log =>
    rule log statement ∧ ∀ reply, Follows rule post (next reply) (log ++ [⟨statement, reply⟩])
  | .ask _ next, log => ∀ reply, Follows rule post (next reply) log

namespace Follows
variable {rule : List Answered → Statement → Prop} {post post' : α → List Answered → Prop}
  {p : Program Call.Reply α} {log : List Answered}

theorem imp (h : Follows rule post p log) (hpost : ∀ a log', post a log' → post' a log') :
    Follows rule post' p log := by
  induction p generalizing log with
  | done a => exact hpost a log h
  | ask c next ih =>
    cases c with
    | send statement => exact ⟨h.1, fun reply => ih reply (h.2 reply)⟩
    | now | freshId | count | publish => exact fun reply => ih reply (h reply)

theorem bind {f : α → Program Call.Reply β} {post' : β → List Answered → Prop} (hp : Follows rule post p log)
    (hf : ∀ a log', post a log' → Follows rule post' (f a) log') : Follows rule post' (p.bind f) log := by
  induction p generalizing log with
  | done a => exact hf a log hp
  | ask c next ih =>
    cases c with
    | send statement => exact ⟨hp.1, fun reply => ih reply (hp.2 reply)⟩
    | now | freshId | count | publish => exact fun reply => ih reply (hp reply)

/-- A log only grows. -/
theorem grows (h : Follows rule post p log) : Follows rule (fun a log' => post a log' ∧ log <+: log') p log := by
  induction p generalizing log with
  | done a => exact ⟨h, List.prefix_rfl⟩
  | ask c next ih =>
    cases c with
    | send statement =>
      refine ⟨h.1, fun reply => (ih reply (h.2 reply)).imp fun a log' ha => ⟨ha.1, ?_⟩⟩
      exact (List.prefix_append log _).trans ha.2
    | now | freshId | count | publish => exact fun reply => ih reply (h reply)

/-- A run sends what the rule allows, and ends well. -/
theorem run (h : Follows rule post p log) (answer : (c : Call) → σ → c.Reply × σ) (s : σ) :
    (∀ before x after, answered answer p s = before ++ x :: after → rule (log ++ before) x.statement) ∧
      post (p.exec answer s).1 (log ++ answered answer p s) := by
  induction p generalizing log s with
  | done a =>
    rw [answered, List.append_nil]
    refine ⟨fun before x after hlog => ?_, h⟩
    cases before <;> cases hlog
  | ask c next ih =>
    cases c with
    | send statement =>
      obtain ⟨hrule, hpost⟩ := ih (answer (.send statement) s).1 (h.2 _) (answer (.send statement) s).2
      rw [List.append_assoc] at hpost
      refine ⟨fun before x after hlog => ?_, hpost⟩
      cases before with
      | nil =>
        obtain ⟨rfl, -⟩ := List.cons.inj hlog
        rw [List.append_nil]
        exact h.1
      | cons y before =>
        obtain ⟨rfl, hrest⟩ := List.cons.inj hlog
        have hx := hrule before x after hrest
        rwa [List.append_assoc] at hx
    | now | freshId | count | publish => exact ih _ (h _) _

end Follows
end Sql

namespace Simulation.Database
variable {α : Type}

/-- The answer of a scripted database, which always has one. -/
def reply (c : Sql.Call) (d : Database) : c.Reply × Database :=
  match c with
  | .send s => d.send s
  | .now => (d.now, d)
  | .freshId =>
    let (id, ids) := d.ids.draw
    (id, { d with ids })
  | .count _ _ => ((), d)
  | .publish topic m =>
    let (r, bus) := d.bus.publish topic m
    (r, { d with bus })

private theorem answer_eq (c : Sql.Call) (d : Database) : answer c d = (some (reply c d).1, (reply c d).2) := by
  cases c <;> rfl

private theorem sent_send (d : Database) (s : Sql.Statement) : (d.send s).2.sent = d.sent ++ [s] := by
  have hcontrol (d : Database) (c : Control) : (d.control c).2.sent = d.sent := by
    unfold control
    split
    · split <;> rfl
    · rfl
  cases s with
  | begin | commit | rollback => exact hcontrol _ _
  | query text params =>
    unfold send
    dsimp only
    split <;> rfl

/-- A program on a scripted database comes to its end, and the database keeps what was sent to it. -/
theorem run_eq_exec (d : Database) (p : Program Sql.Call.Reply α) :
    d.run p = (some (p.exec reply d).1, (p.exec reply d).2) ∧
      (p.exec reply d).2.sent = d.sent ++ (Sql.answered reply p d).map Sql.Answered.statement := by
  induction p generalizing d with
  | done a => exact ⟨rfl, (List.append_nil d.sent).symm⟩
  | ask c next ih =>
    obtain ⟨hrun, hsent⟩ := ih (reply c d).1 (reply c d).2
    refine ⟨?_, ?_⟩
    · rw [Database.run, Program.run, answer_eq]
      exact hrun
    · cases c with
      | send s =>
        rw [show (reply (.send s) d).2.sent = d.sent ++ [s] from sent_send d s, List.append_assoc] at hsent
        exact hsent
      | now | freshId | count | publish => exact hsent

end Simulation.Database
end Turnstile
