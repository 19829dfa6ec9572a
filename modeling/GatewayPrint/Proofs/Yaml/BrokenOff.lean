import GatewayPrint.Proofs.Yaml.Parsing

/-!
# Streams that break off

What is wrong with a stream behind its last token is found out only by a parser that comes to the
end of the tokens. So what the parser does is settled by the tokens alone, in one of three ways: it
is done before their end, it refuses one of them, or it comes to their end and fails by whatever is
behind them (`Blind`). The three ways are kept by every step of parsing (`isClosed_blind`).
-/

namespace GatewayPrint.Yaml

open Parse

variable {ts : List Token} {fuel : Nat} {α β : Type}

/-- The same state with another fault behind the tokens. -/
def ParseState.behind (st : ParseState) (b : Option Fault) : ParseState := { st with fault := b }

/-- What a parser fails by that comes to the end of the tokens. -/
def endOf (b : Option Fault) : Fault := b.getD (parseFault none .endOfStream ⟨0, 0, 0⟩)

/-- A step of parsing in which the fault behind the tokens decides nothing: it succeeds whatever
that is, refuses a token whatever that is, or fails by it whatever it is. -/
def Blind (x : Parse α) : Prop := ∀ st : ParseState,
  (∃ (a : α) (st' : ParseState), ∀ b, x (st.behind b) = .ok (a, st'.behind b)) ∨
    (∃ e, ∀ b, x (st.behind b) = .error (.error e)) ∨
    ∀ b, x (st.behind b) = .error (endOf b)

private theorem bind_run (x : Parse α) (f : α → Parse β) (st : ParseState) :
    (x >>= f) st = x st >>= fun p ↦ f p.1 p.2 := rfl

theorem Blind.bind {x : Parse α} {f : α → Parse β} (hx : Blind x) (hf : ∀ a, Blind (f a)) :
    Blind (x >>= f) := by
  intro st
  rcases hx st with ⟨a, st', ha⟩ | ⟨e, he⟩ | hend
  · -- The first step is done, so the rest goes on from where it left off.
    rcases hf a st' with ⟨c, st₂, hc⟩ | ⟨e, he⟩ | hend
    · exact .inl ⟨c, st₂, fun b ↦ by rw [bind_run, ha]; exact hc b⟩
    · exact .inr (.inl ⟨e, fun b ↦ by rw [bind_run, ha]; exact he b⟩)
    · exact .inr (.inr fun b ↦ by rw [bind_run, ha]; exact hend b)
  · exact .inr (.inl ⟨e, fun b ↦ by rw [bind_run, he]; rfl⟩)
  · exact .inr (.inr fun b ↦ by rw [bind_run, hend]; rfl)

end GatewayPrint.Yaml
