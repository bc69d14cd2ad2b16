/-
The grammar of program lines.

* `Instruction.Spells`: what the runs of a line spell, or which complaint they
  give rise to, one rule for each way;
* `Instruction.mapM_eq_error_iff`: reading tokens from the left ends at the first
  that is rejected;
* `Instruction.decode_iff_spells`: **decoding a line accepts exactly this
  grammar**, and looks at nothing but the runs of the line.
-/
import RegisterMachine.Proofs.Instruction.Meaning
import RegisterMachine.Proofs.KeyedTable.Lookup
import RegisterMachine.Proofs.Text.Fields

namespace RegisterMachine

namespace Opcode

/-- The names that can be written in a program. -/
def names : List Bytes :=
  ["add", "sub", "sll", "srl", "shw", "halt"].map utf8

/-- The table of instructions holds the written ones under their names. -/
lemma get?_mnemonic {op : Opcode} (h : op ≠ .nop) : byMnemonic.get? op.mnemonic = some op := by
  cases op with
  | nop => exact absurd rfl h
  | _ => decide

/-- What is found in the table of instructions has the name it is found by. -/
lemma eq_mnemonic_of_get? {name : Bytes} {op : Opcode} (h : byMnemonic.get? name = some op) :
    op ≠ .nop ∧ name = op.mnemonic := by
  rw [byMnemonic, written, KeyedTable.get?_ofItems_filter_eq_some_iff] at h
  obtain ⟨_, _, -, ⟨hname, hwritten⟩, -⟩ := h
  exact ⟨of_decide_eq_true hwritten, hname.symm⟩

lemma mem_names_iff {name : Bytes} : name ∈ names ↔ ∃ op, op ≠ .nop ∧ name = mnemonic op := by
  constructor
  · intro h
    simp only [names, List.map_cons, List.map_nil, List.mem_cons, List.not_mem_nil,
      or_false] at h
    rcases h with rfl | rfl | rfl | rfl | rfl | rfl
    · exact ⟨.add, by simp, rfl⟩
    · exact ⟨.sub, by simp, rfl⟩
    · exact ⟨.sll, by simp, rfl⟩
    · exact ⟨.srl, by simp, rfl⟩
    · exact ⟨.shw, by simp, rfl⟩
    · exact ⟨.halt, by simp, rfl⟩
  · rintro ⟨op, hop, rfl⟩
    cases op with
    | nop => exact absurd rfl hop
    | _ => decide

/-- A name that cannot be written is not in the table of instructions. -/
lemma get?_eq_none_iff {name : Bytes} : byMnemonic.get? name = none ↔ name ∉ names := by
  rw [mem_names_iff]
  constructor
  · rintro h ⟨op, hop, rfl⟩
    rw [get?_mnemonic hop] at h
    exact absurd h (by simp)
  · intro h
    by_contra hne
    obtain ⟨op, hop⟩ := Option.ne_none_iff_exists'.mp hne
    exact h ⟨op, eq_mnemonic_of_get? hop⟩

end Opcode

namespace Instruction

/-- What the runs of a line spell: an instruction, or a complaint. -/
inductive Spells : List Bytes → Except Cause Instruction → Prop where
  /-- A line without runs does nothing. -/
  | blank : Spells [] (.ok .nop)
  /-- Neither does a line whose first run begins with the comment mark. -/
  | comment (text : Bytes) (tokens : List Bytes) :
      Spells ((commentMark ++ text) :: tokens) (.ok .nop)
  /-- The first run names no instruction. -/
  | unknown {name : Bytes} (tokens : List Bytes) (hcomment : ¬ commentMark <+: name)
      (hname : name ∉ Opcode.names) : Spells (name :: tokens) (.error (.unknownInstruction name))
  /-- Fewer runs follow than the instruction has operands. -/
  | missing {op : Opcode} {tokens : List Bytes} (hop : op ≠ .nop)
      (hlength : tokens.length < op.operands) :
      Spells (op.mnemonic :: tokens)
        (.error (.missingOperand op.mnemonic op.operands tokens.length))
  /-- There are enough of them, and `bad` is the first among the operands that is
  rejected. -/
  | rejected {op : Opcode} {good rest : List Bytes} {bad : Bytes} {e : Cause} (hop : op ≠ .nop)
      (hlength : op.operands ≤ (good ++ bad :: rest).length) (hplace : good.length < op.operands)
      (hgood : ∀ t ∈ good, ∃ i, Register.parse t = .ok i) (hbad : Register.parse bad = .error e) :
      Spells (op.mnemonic :: (good ++ bad :: rest)) (.error e)
  | add {t t' : Bytes} {dst src : Int} (hdst : Register.parse t = .ok dst)
      (hsrc : Register.parse t' = .ok src) (rest : List Bytes) :
      Spells (utf8 "add" :: t :: t' :: rest) (.ok (.add dst src))
  | sub {t t' : Bytes} {dst src : Int} (hdst : Register.parse t = .ok dst)
      (hsrc : Register.parse t' = .ok src) (rest : List Bytes) :
      Spells (utf8 "sub" :: t :: t' :: rest) (.ok (.sub dst src))
  | sll {t t' t'' : Bytes} {src dst shift : Int} (hsrc : Register.parse t = .ok src)
      (hdst : Register.parse t' = .ok dst) (hshift : Register.parse t'' = .ok shift)
      (rest : List Bytes) :
      Spells (utf8 "sll" :: t :: t' :: t'' :: rest) (.ok (.sll src dst shift))
  | srl {t t' t'' : Bytes} {src dst shift : Int} (hsrc : Register.parse t = .ok src)
      (hdst : Register.parse t' = .ok dst) (hshift : Register.parse t'' = .ok shift)
      (rest : List Bytes) :
      Spells (utf8 "srl" :: t :: t' :: t'' :: rest) (.ok (.srl src dst shift))
  | shw {t : Bytes} {src : Int} (hsrc : Register.parse t = .ok src) (rest : List Bytes) :
      Spells (utf8 "shw" :: t :: rest) (.ok (.shw src))
  | halt (rest : List Bytes) : Spells (utf8 "halt" :: rest) (.ok .halt)

/-! ### Reading tokens from the left -/

/-- Reading items from the left fails with the complaint about the first that is
rejected. -/
lemma mapM_eq_error_iff {α β ε : Type} {f : α → Except ε β} {l : List α} {e : ε} :
    l.mapM f = .error e ↔ ∃ good bad rest, l = good ++ bad :: rest
      ∧ (∀ a ∈ good, ∃ r, f a = .ok r) ∧ f bad = .error e := by
  induction l with
  | nil => simp [pure, Except.pure]
  | cons a l ih =>
      rw [List.mapM_cons]
      cases ha : f a with
      | error e' =>
          constructor
          · intro h
            obtain rfl : e' = e := by simpa [bind, Except.bind] using h
            exact ⟨[], a, l, rfl, by simp, ha⟩
          · rintro ⟨good, bad, rest, hl, hgood, hbad⟩
            cases good with
            | nil =>
                obtain ⟨rfl, rfl⟩ := List.cons.inj hl
                rw [ha] at hbad
                exact congrArg Except.error (Except.error.inj hbad)
            | cons g good =>
                obtain ⟨r, hr⟩ := hgood a (by simp [(List.cons.inj hl).1])
                rw [ha] at hr
                exact absurd hr (by simp)
      | ok r =>
          have hbind : (do let r ← (Except.ok r : Except ε β); let rs ← l.mapM f; pure (r :: rs))
              = .error e ↔ l.mapM f = .error e := by
            cases l.mapM f <;> simp [bind, Except.bind, pure, Except.pure]
          rw [hbind, ih]
          constructor
          · rintro ⟨good, bad, rest, rfl, hgood, hbad⟩
            refine ⟨a :: good, bad, rest, rfl, ?_, hbad⟩
            exact List.forall_mem_cons.mpr ⟨⟨r, ha⟩, hgood⟩
          · rintro ⟨good, bad, rest, hl, hgood, hbad⟩
            cases good with
            | nil =>
                rw [← (List.cons.inj hl).1, ha] at hbad
                exact absurd hbad (by simp)
            | cons g good =>
                exact ⟨good, bad, rest, (List.cons.inj hl).2,
                  fun b hb => hgood b (by simp [hb]), hbad⟩

lemma mapM_of_forall₂ {α β ε : Type} {f : α → Except ε β} {l : List α} {rs : List β}
    (h : List.Forall₂ (fun a r => f a = .ok r) l rs) : l.mapM f = .ok rs := by
  induction h with
  | nil => rfl
  | cons ha _ ih => rw [List.mapM_cons, ha, ih]; rfl

/-! ### Decoding the runs of a line -/

/-- Operands that are all read are put together in the order in which they are
written, and the runs behind them are ignored. -/
lemma spells_assemble {op : Opcode} (hop : op ≠ .nop) {tokens : List Bytes} {rs : List Int}
    (h : List.Forall₂ (fun t r => Register.parse t = .ok r) tokens rs)
    (hlength : tokens.length = op.operands) (rest : List Bytes) :
    Spells (op.mnemonic :: (tokens ++ rest)) (.ok (assemble op fun i => rs.getD i 0)) := by
  cases op with
  | nop => exact absurd rfl hop
  | add =>
      match tokens, rs, h, hlength with
      | [_, _], [_, _], .cons hdst (.cons hsrc .nil), _ => exact .add hdst hsrc rest
  | sub =>
      match tokens, rs, h, hlength with
      | [_, _], [_, _], .cons hdst (.cons hsrc .nil), _ => exact .sub hdst hsrc rest
  | sll =>
      match tokens, rs, h, hlength with
      | [_, _, _], [_, _, _], .cons hsrc (.cons hdst (.cons hshift .nil)), _ =>
          exact .sll hsrc hdst hshift rest
  | srl =>
      match tokens, rs, h, hlength with
      | [_, _, _], [_, _, _], .cons hsrc (.cons hdst (.cons hshift .nil)), _ =>
          exact .srl hsrc hdst hshift rest
  | shw =>
      match tokens, rs, h, hlength with
      | [_], [_], .cons hsrc .nil, _ => exact .shw hsrc rest
  | halt =>
      match tokens, rs, h, hlength with
      | [], [], .nil, _ => exact .halt rest

/-- The answer to an instruction of the set with any tokens follows a rule. -/
lemma spells_decodeOperands {op : Opcode} (hop : op ≠ .nop) (tokens : List Bytes) :
    Spells (op.mnemonic :: tokens) (decodeOperands op tokens) := by
  rw [decodeOperands]
  split_ifs with hlength
  · exact .missing hop hlength
  · have htake : (tokens.take op.operands).length = op.operands := by
      rw [List.length_take]
      omega
    cases hread : (tokens.take op.operands).mapM Register.parse with
    | error e =>
        obtain ⟨good, bad, rest, hsplit, hgood, hbad⟩ := mapM_eq_error_iff.mp hread
        have htokens : tokens = good ++ bad :: (rest ++ tokens.drop op.operands) := by
          rw [← List.cons_append, ← List.append_assoc, ← hsplit, List.take_append_drop]
        have hplace : good.length < op.operands := by
          rw [← htake, hsplit, List.length_append, List.length_cons]
          omega
        rw [htokens] at hlength ⊢
        exact .rejected hop (by omega) hplace hgood hbad
    | ok rs =>
        have h := spells_assemble hop (forall₂_of_mapM hread) htake (tokens.drop op.operands)
        rwa [List.take_append_drop] at h

/-- Whatever the runs of a line are, the answer follows a rule. -/
lemma spells_decodeFields (ts : List Bytes) : Spells ts (decodeFields ts) := by
  cases ts with
  | nil => exact .blank
  | cons name tokens =>
      rw [decodeFields]
      split_ifs with hcomment
      · obtain ⟨text, rfl⟩ := List.isPrefixOf_iff_prefix.mp hcomment
        exact .comment text tokens
      · cases hget : Opcode.byMnemonic.get? name with
        | none =>
            refine .unknown tokens ?_ (Opcode.get?_eq_none_iff.mp hget)
            rwa [List.isPrefixOf_iff_prefix] at hcomment
        | some op =>
            obtain ⟨hop, rfl⟩ := Opcode.eq_mnemonic_of_get? hget
            exact spells_decodeOperands hop tokens

/-- Names of instructions are no comments, so they are looked up. -/
lemma decodeFields_mnemonic {op : Opcode} (hop : op ≠ .nop) (tokens : List Bytes) :
    decodeFields (op.mnemonic :: tokens) = decodeOperands op tokens := by
  have hcomment : commentMark.isPrefixOf op.mnemonic = false := by
    cases op <;> decide
  rw [decodeFields, hcomment, Opcode.get?_mnemonic hop]
  rfl

/-- A name with all its operands in order is an instruction, whatever follows. -/
lemma decodeFields_of_forall₂ (op : Opcode) (hop : op ≠ .nop) {tokens : List Bytes}
    {rs : List Int} (h : List.Forall₂ (fun t r => Register.parse t = .ok r) tokens rs)
    (hlength : tokens.length = op.operands) (rest : List Bytes) :
    decodeFields (op.mnemonic :: (tokens ++ rest)) = .ok (assemble op fun i => rs.getD i 0) := by
  rw [decodeFields_mnemonic hop, decodeOperands, if_neg (by simp [hlength]), ← hlength,
    List.take_left, mapM_of_forall₂ h]

/-- Each rule tells what is decoded. -/
lemma Spells.decodeFields_eq {ts : List Bytes} {r : Except Cause Instruction}
    (h : Spells ts r) : decodeFields ts = r := by
  cases h with
  | blank => rfl
  | comment text tokens =>
      rw [decodeFields, if_pos (List.isPrefixOf_iff_prefix.mpr (List.prefix_append _ _))]
  | unknown tokens hcomment hname =>
      rw [decodeFields, if_neg (by rwa [List.isPrefixOf_iff_prefix]),
        Opcode.get?_eq_none_iff.mpr hname]
  | missing hop hlength =>
      rw [decodeFields_mnemonic hop, decodeOperands, if_pos hlength]
  | @rejected op good rest bad e hop hlength hplace hgood hbad =>
      have htake : (good ++ bad :: rest).take op.operands
          = good ++ bad :: rest.take (op.operands - good.length - 1) := by
        obtain ⟨k, hk⟩ : ∃ k, op.operands = good.length + (k + 1) :=
          ⟨op.operands - good.length - 1, by omega⟩
        rw [hk, List.take_length_add_append, List.take_succ_cons]
        congr 3
        omega
      rw [decodeFields_mnemonic hop, decodeOperands, if_neg (by omega), htake,
        mapM_eq_error_iff.mpr ⟨good, bad, _, rfl, hgood, hbad⟩]
  | add hdst hsrc rest =>
      exact decodeFields_of_forall₂ .add (by simp) (.cons hdst (.cons hsrc .nil)) rfl rest
  | sub hdst hsrc rest =>
      exact decodeFields_of_forall₂ .sub (by simp) (.cons hdst (.cons hsrc .nil)) rfl rest
  | sll hsrc hdst hshift rest =>
      exact decodeFields_of_forall₂ .sll (by simp)
        (.cons hsrc (.cons hdst (.cons hshift .nil))) rfl rest
  | srl hsrc hdst hshift rest =>
      exact decodeFields_of_forall₂ .srl (by simp)
        (.cons hsrc (.cons hdst (.cons hshift .nil))) rfl rest
  | shw hsrc rest =>
      exact decodeFields_of_forall₂ .shw (by simp) (.cons hsrc .nil) rfl rest
  | halt rest => exact decodeFields_of_forall₂ .halt (by simp) .nil rfl rest

lemma decodeFields_iff {ts : List Bytes} {r : Except Cause Instruction} :
    decodeFields ts = r ↔ Spells ts r :=
  ⟨fun h => h ▸ spells_decodeFields ts, Spells.decodeFields_eq⟩

/-- Only a line without runs and a comment do nothing. -/
lemma spells_nop_iff {ts : List Bytes} :
    Spells ts (.ok .nop) ↔ ts = [] ∨ ∃ t tokens, ts = t :: tokens ∧ commentMark <+: t := by
  constructor
  · intro h
    cases h with
    | blank => exact .inl rfl
    | comment text tokens => exact .inr ⟨_, tokens, rfl, List.prefix_append _ _⟩
  · rintro (rfl | ⟨-, tokens, rfl, text, rfl⟩)
    · exact .blank
    · exact .comment text tokens

/-- **Decoding a line accepts exactly the grammar of program lines.**  A line has
one list of maximal runs without white space, and it is decoded to what these
spell and to nothing else.  It does nothing just when there are no runs or the
first is a comment.  Without the white space around it, the line is empty just
when there are no runs, and begins with the first one otherwise. -/
theorem decode_iff_spells (line : Bytes) :
    ∃ ts, (∀ ts', Blank.SplitsInto line ts' ↔ ts' = ts)
      ∧ (∀ r, decode line = r ↔ Spells ts r)
      ∧ (decode line = .ok .nop ↔ ts = [] ∨ ∃ t tokens, ts = t :: tokens ∧ commentMark <+: t)
      ∧ (Blank.trim line = [] ↔ ts = [])
      ∧ ∀ t tokens, ts = t :: tokens → t <+: Blank.trim line := by
  have hdecode (r : Except Cause Instruction) :
      decode line = r ↔ Spells (Blank.fields line) r := decodeFields_iff
  obtain ⟨rest, htrim, hrest⟩ := Blank.trim_eq_head_append line
  refine ⟨Blank.fields line, Blank.splitsInto_iff line, hdecode, ?_, ⟨fun h => ?_, fun h => ?_⟩,
    fun t tokens h => ?_⟩
  · rw [hdecode, spells_nop_iff]
  · rw [← Blank.fields_trim, h]
    rfl
  · rw [htrim, hrest h, h]
    rfl
  · rw [htrim, h]
    exact List.prefix_append t rest

end Instruction

end RegisterMachine
