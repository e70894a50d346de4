import HttpRouting.Proofs.Path
import HttpRouting.Proofs.Template.Slots

/-!
# Placeholders that are read back

Compiling a template writes its literal text as it stands.  A literal bracket
may thus begin a block of its own or swallow the bracket of a token, and a
question mark behind a token makes a required parameter optional.  Where
neither occurs, the pattern is read as the template was, and nowhere else are
the parameters of the template found in it.
-/

namespace HttpRouting

open Template (Param)

/-! ## What a pattern says of a template -/

namespace Pattern

def Block.toParam (b : Block) : Param :=
  ⟨b.param, b.optional, if b.type.isEmpty then none else some b.type⟩

def params (pieces : List Piece) : List Param := (blocks pieces).map Block.toParam

/-- What a piece stands for in a template, where the lead of a block is literal text. -/
def Piece.toTemplate : Piece → List Template.Piece
  | .literal c => [.literal c]
  | .block b => (b.lead.map Template.Piece.literal).toList ++ [.token ⟨b.param, b.optional⟩]

def toTemplate (pieces : List Piece) : List Template.Piece := pieces.flatMap Piece.toTemplate

theorem params_block (b : Block) (pieces : List Piece) :
    params (.block b :: pieces) = b.toParam :: params pieces := rfl

theorem toParam_blockOf {p : Param} (h : p.tag ≠ some "") (lead : Option Char) (optional : Bool) :
    (blockOf lead p optional).toParam = { p with optional := optional } := by
  obtain ⟨name, o, tag⟩ := p
  cases tag with
  | none => rfl
  | some tag =>
      have htag : tag.isEmpty = false := by
        rw [Bool.eq_false_iff, ne_eq, String.isEmpty_iff]
        rintro rfl
        exact h rfl
      simp [Block.toParam, blockOf, htag]

theorem bracket?_cons_eq_none {c : Char} (hc : isBlockChar c = true) {s : List Char}
    (h : bracket? none ('[' :: s) = none) : bracket? none ('[' :: c :: s) = none := by
  simp only [bracket?, List.dropWhile_cons_of_pos hc] at h ⊢
  split at h
  next => simpa using h
  next => rfl

theorem bracket?_colon_eq_none {s : List Char}
    (h : s.takeWhile isBlockChar = [] ∨ blockEnd? (s.dropWhile isBlockChar) = none) :
    bracket? none ('[' :: ':' :: s) = none := by
  have hcolon : (':' :: s).dropWhile isBlockChar = ':' :: s := List.dropWhile_cons_of_neg (by decide)
  simp only [bracket?, hcolon]
  rcases h with hname | hend
  · simp [hname]
  · simp [hend]

theorem bracket?_lead (lead : Option Char) (s : List Char) :
    bracket? lead s =
      (bracket? none s).map fun found => ({ found.1 with lead := lead }, found.2) := by
  unfold bracket?
  split
  next =>
    split
    next =>
      dsimp only
      split
      next => rfl
      next =>
        rw [Option.map_map]
        rfl
    next => rfl
  next => rfl

/-- Whether or not a character is taken for the lead of a block, it is text before what follows. -/
theorem scan_cons_of_ne {c : Char} (hc : c ≠ '[') (s : List Char) :
    params (scan (c :: s)) = params (scan s) ∧
      toTemplate (scan (c :: s)) = .literal c :: toTemplate (scan s) := by
  by_cases hblock : isLead c = true ∧ (bracket? none s).isSome
  · obtain ⟨hlead, hsome⟩ := hblock
    obtain ⟨⟨b, rest⟩, hb⟩ := Option.isSome_iff_exists.mp hsome
    have hwith : bracket? (some c) s = some ({ b with lead := some c }, rest) := by
      rw [bracket?_lead, hb]
      rfl
    have hwithout : b = { b with lead := none } := by
      have h := bracket?_lead none s
      rw [hb, Option.map_some, Option.some.injEq, Prod.mk.injEq] at h
      exact h.1
    rw [scan_of_lead hlead hwith, scan_of_bracket? hb, hwithout]
    exact ⟨rfl, rfl⟩
  · have hnone : block? (c :: s) = none := by
      rw [block?]
      split
      next hlead =>
        rw [bracket?_lead, Option.map_eq_none_iff]
        simpa [hlead] using hblock
      next => exact bracket?_eq_none (by simpa using hc)
    rw [scan_of_block?_eq_none hnone]
    exact ⟨rfl, rfl⟩

end Pattern

namespace Template

open Compiler (Part tagPieces)

/-! ## Templates that stay apart from the blocks -/

/-- Behind the colon of a block stand a name and the closing bracket. -/
def namesBlock (named : Bool) : List Piece → Bool
  | .literal c :: rest =>
      if Pattern.isBlockChar c then namesBlock true rest else named && c == ']'
  | _ => false

/--
A bracket before these pieces begins a block.  If a token follows before the
type of this block has ended, the token gives the block its name.
-/
def opensBlock : List Piece → Bool
  | [] => false
  | .token _ :: _ => true
  | .literal c :: rest =>
      if Pattern.isBlockChar c then opensBlock rest else c == ':' && namesBlock false rest

/-- No literal bracket begins a block, and no question mark follows a required token. -/
def isSeparate : List Piece → Bool
  | [] => true
  | .literal c :: rest => !(c == '[' && opensBlock rest) && isSeparate rest
  | .token t :: rest => (t.optional || rest.head? != some (.literal '?')) && isSeparate rest

def Piece.isFiller : Piece → Bool
  | .literal c => Path.isFiller c
  | .token _ => false

/-! ## Weight -/

/-- Every parameter counts, and so does every character of its tag. -/
def Param.weight (p : Param) : Nat := 1 + (p.tag.getD "").toList.length

def weigh : List Param → Nat
  | [] => 0
  | p :: params => p.weight + weigh params

theorem weigh_cons (p : Param) (params : List Param) :
    weigh (p :: params) = p.weight + weigh params := rfl

theorem weight_toParam (b : Pattern.Block) : b.toParam.weight = 1 + b.type.toList.length := by
  rw [Param.weight, Pattern.Block.toParam]
  split
  next h => simp [String.isEmpty_iff.mp h]
  next => rfl

/-! ## What is written for a template -/

namespace Compiler

variable (constraints : Pairs String) (compiler : Compiler)

def written (pieces : List Piece) : List Char :=
  (tagPieces constraints pieces compiler).1.flatMap Part.text

def paramsOf (pieces : List Piece) : List Param :=
  (tagPieces constraints pieces compiler).1.filterMap Part.param?

theorem written_literal (c : Char) (rest : List Piece) :
    compiler.written constraints (.literal c :: rest) = c :: compiler.written constraints rest := rfl

theorem paramsOf_literal (c : Char) (rest : List Piece) :
    compiler.paramsOf constraints (.literal c :: rest) = compiler.paramsOf constraints rest := rfl

theorem tag_ne_empty : compiler.tag ≠ "" := by
  intro h
  have hdigits := congrArg String.toList h
  simp [tag, Nat.toString_eq_repr, Nat.toList_repr, Nat.toDigits_ne_nil] at hdigits

variable {compiler}

theorem exists_param_of_token (hwrite : compiler.IsWritable) {t : Token}
    (ht : IsName t.name.toList) (rest : List Piece) :
    ∃ (p : Param) (next : Nat), Pattern.IsWritable p ∧ p.tag ≠ some "" ∧ p.name = t.name ∧
      p.optional = t.optional ∧
      compiler.written constraints (.token t :: rest) =
        p.block ++ { compiler with next := next }.written constraints rest ∧
      compiler.paramsOf constraints (.token t :: rest) =
        p :: { compiler with next := next }.paramsOf constraints rest := by
  obtain ⟨p, regex, next, -, htag, hname, hoptional, htype⟩ :=
    tagPieces_token constraints t rest compiler
  have htags := htype.imp And.left And.left
  refine ⟨p, next, isWritable_param ht hwrite hname htags, ?_, hname, hoptional, ?_, ?_⟩
  · rcases htags with hnone | hsome
    · simp [hnone]
    · simpa [hsome] using compiler.tag_ne_empty
  · simp [written, htag, Part.text]
  · simp [paramsOf, htag, Part.param?]

end Compiler

section

variable (constraints : Pairs String) {compiler : Compiler} (hwrite : compiler.IsWritable)

/-! ## Brackets that begin no block -/

theorem isBlockChar_eq_false {c : Char} (h : Pattern.isBlockChar c ≠ true) : c = ':' ∨ c = ']' := by
  simpa [Pattern.isBlockChar, or_iff_not_imp_left] using h

include hwrite in
theorem dropWhile_written_token {t : Token} (ht : IsName t.name.toList) (rest : List Piece) :
    ∃ tail, (compiler.written constraints (.token t :: rest)).dropWhile Pattern.isBlockChar =
      ':' :: tail := by
  obtain ⟨p, next, hp, -, -, -, hwritten, -⟩ :=
    Compiler.exists_param_of_token constraints hwrite ht rest
  have htext (s : List Char) : p.block ++ s = '[' :: ((p.tag.getD "").toList ++
      ':' :: (p.name.toList ++ (if p.optional then [']', '?'] else [']']) ++ s)) := by
    simp [Param.block]
  rw [hwritten, htext, List.dropWhile_cons_of_pos rfl, List.dropWhile_append_of_pos hp.tag]
  exact ⟨_, rfl⟩

include hwrite in
theorem blockEnd?_of_namesBlock {named : Bool} {rest : List Piece}
    (hnames : ∀ t, .token t ∈ rest → IsName t.name.toList) (h : namesBlock named rest = false) :
    named = false ∧ (compiler.written constraints rest).takeWhile Pattern.isBlockChar = [] ∨
      Pattern.blockEnd? ((compiler.written constraints rest).dropWhile Pattern.isBlockChar) =
        none := by
  fun_induction namesBlock named rest with
  | case1 named c rest hc ih =>
      have hrest := ih (fun t ht => hnames t (List.mem_cons_of_mem _ ht)) h
      simp only [Bool.true_eq_false, false_and, false_or] at hrest
      rw [Compiler.written_literal, List.dropWhile_cons_of_pos hc]
      exact .inr hrest
  | case2 named c rest hc =>
      rw [Compiler.written_literal, List.dropWhile_cons_of_neg hc, List.takeWhile_cons_of_neg hc]
      rcases isBlockChar_eq_false hc with rfl | rfl
      · exact .inr rfl
      · exact .inl ⟨by simpa using h, rfl⟩
  | case3 pieces named hpieces =>
      refine .inr ?_
      cases pieces with
      | nil => rfl
      | cons piece rest =>
          cases piece with
          | literal c => exact absurd rfl (hpieces c rest)
          | token t =>
              obtain ⟨tail, htail⟩ := dropWhile_written_token constraints hwrite
                (hnames t List.mem_cons_self) rest
              rw [htail]
              rfl

include hwrite in
theorem bracket?_of_opensBlock_eq_false {rest : List Piece}
    (hnames : ∀ t, .token t ∈ rest → IsName t.name.toList) (h : opensBlock rest = false) :
    Pattern.bracket? none ('[' :: compiler.written constraints rest) = none := by
  fun_induction opensBlock rest with
  | case1 => rfl
  | case2 => simp at h
  | case3 c rest hc ih =>
      exact Pattern.bracket?_cons_eq_none hc (ih (fun t ht => hnames t (List.mem_cons_of_mem _ ht)) h)
  | case4 c rest hc =>
      rw [Compiler.written_literal]
      rcases isBlockChar_eq_false hc with rfl | rfl
      · have hend := blockEnd?_of_namesBlock constraints hwrite
          (fun t ht => hnames t (List.mem_cons_of_mem _ ht)) (by simpa using h)
        exact Pattern.bracket?_colon_eq_none (hend.imp And.right id)
      · rfl

/-! ## Brackets that begin a block -/

theorem blockEnd?_written (compiler : Compiler) (rest : List Piece) :
    ∃ (optional : Bool) (more : List Piece),
      Pattern.blockEnd? (']' :: compiler.written constraints rest) =
        some (optional, compiler.written constraints more) ∧
      compiler.paramsOf constraints rest = compiler.paramsOf constraints more ∧
      more <:+ rest := by
  cases rest with
  | nil => exact ⟨false, [], rfl, rfl, List.suffix_refl _⟩
  | cons piece rest =>
      cases piece with
      | literal c =>
          by_cases hc : c = '?'
          · subst hc
            exact ⟨true, rest, rfl, rfl, List.suffix_cons _ _⟩
          · refine ⟨false, .literal c :: rest, ?_, rfl, List.suffix_refl _⟩
            rw [Compiler.written_literal, Pattern.blockEnd?]
            simp [hc]
      | token t =>
          refine ⟨false, .token t :: rest, ?_, rfl, List.suffix_refl _⟩
          obtain ⟨p, regex, next, -, htag, -⟩ :=
            Compiler.tagPieces_token constraints t rest compiler
          simp [Compiler.written, htag, Part.text, Param.block, Pattern.blockEnd?]

theorem exists_name_of_namesBlock (compiler : Compiler) {named : Bool} {rest : List Piece}
    (h : namesBlock named rest = true) :
    ∃ (name : List Char) (more : List Piece), (∀ c ∈ name, Pattern.isBlockChar c = true) ∧
      (named = false → name ≠ []) ∧
      compiler.written constraints rest = name ++ ']' :: compiler.written constraints more ∧
      compiler.paramsOf constraints rest = compiler.paramsOf constraints more ∧
      more <:+ rest := by
  fun_induction namesBlock named rest with
  | case1 named c rest hc ih =>
      obtain ⟨name, more, hname, -, hwritten, hparams, hmore⟩ := ih h
      refine ⟨c :: name, more, ?_, ?_, ?_, hparams, hmore.trans (List.suffix_cons _ _)⟩
      · simpa [hc] using hname
      · simp
      · rw [Compiler.written_literal, hwritten, List.cons_append]
  | case2 named c rest hc =>
      simp only [Bool.and_eq_true, beq_iff_eq] at h
      obtain ⟨rfl, rfl⟩ := h
      exact ⟨[], rest, by simp, by simp, rfl, rfl, List.suffix_cons _ _⟩
  | case3 => simp at h

/--
A bracket that begins a block reads at least as much into its type as the tag of
the token that it may swallow.
-/
theorem exists_type_of_opensBlock (hwrite : compiler.IsWritable) {rest : List Piece}
    (hnames : ∀ t, .token t ∈ rest → IsName t.name.toList) (h : opensBlock rest = true) :
    ∃ (type name ending : List Char) (optional : Bool) (more : List Piece) (next : Nat),
      (∀ c ∈ type, Pattern.isBlockChar c = true) ∧ (∀ c ∈ name, Pattern.isBlockChar c = true) ∧
      name ≠ [] ∧
      compiler.written constraints rest = type ++ ':' :: name ++ ']' :: ending ∧
      Pattern.blockEnd? (']' :: ending) =
        some (optional, { compiler with next := next }.written constraints more) ∧
      weigh (compiler.paramsOf constraints rest) ≤
        type.length + weigh ({ compiler with next := next }.paramsOf constraints more) ∧
      more <:+ rest := by
  fun_induction opensBlock rest with
  | case1 => simp at h
  | case2 t rest =>
      obtain ⟨p, next, hp, -, -, -, hwritten, hparams⟩ := Compiler.exists_param_of_token
        constraints hwrite (hnames t List.mem_cons_self) rest
      have htype : ∀ c ∈ '[' :: (p.tag.getD "").toList, Pattern.isBlockChar c = true := by
        simpa using ⟨by decide, hp.tag⟩
      cases ho : p.optional with
      | true =>
          refine ⟨'[' :: (p.tag.getD "").toList, p.name.toList,
            '?' :: { compiler with next := next }.written constraints rest, true, rest, next, htype,
            hp.name, hp.named, ?_, rfl, ?_, List.suffix_cons _ _⟩
          · simp [hwritten, Param.block, ho]
          · simp only [hparams, weigh_cons, Param.weight, List.length_cons]
            omega
      | false =>
          obtain ⟨optional, more, hend, hmore, hsuffix⟩ :=
            blockEnd?_written constraints { compiler with next := next } rest
          refine ⟨'[' :: (p.tag.getD "").toList, p.name.toList, _, optional, more, next, htype,
            hp.name, hp.named, ?_, hend, ?_, hsuffix.trans (List.suffix_cons _ _)⟩
          · simp [hwritten, Param.block, ho]
          · simp only [hparams, weigh_cons, Param.weight, List.length_cons, hmore]
            omega
  | case3 c rest hc ih =>
      obtain ⟨type, name, ending, optional, more, next, htype, hname, hnamed, hwritten, hend, hweight,
        hmore⟩ := ih (fun t ht => hnames t (List.mem_cons_of_mem _ ht)) h
      refine ⟨c :: type, name, ending, optional, more, next, ?_, hname, hnamed, ?_, hend, ?_,
        hmore.trans (List.suffix_cons _ _)⟩
      · simpa [hc] using htype
      · rw [Compiler.written_literal, hwritten, List.cons_append, List.cons_append]
      · rw [Compiler.paramsOf_literal, List.length_cons]
        omega
  | case4 c rest hc =>
      simp only [Bool.and_eq_true, beq_iff_eq] at h
      obtain ⟨rfl, hnamesBlock⟩ := h
      obtain ⟨name, after, hname, hnamed, hwritten, hafter, hsuffix⟩ :=
        exists_name_of_namesBlock constraints compiler hnamesBlock
      obtain ⟨optional, more, hend, hmore, hsuffix'⟩ :=
        blockEnd?_written constraints compiler after
      refine ⟨[], name, _, optional, more, compiler.next, by simp, hname, hnamed rfl, ?_, hend, ?_, ?_⟩
      · rw [Compiler.written_literal, hwritten, List.nil_append, List.cons_append]
      · rw [Compiler.paramsOf_literal, hafter, hmore]
        exact Nat.le_add_left _ _
      · exact (hsuffix'.trans hsuffix).trans (List.suffix_cons _ _)

theorem bracket?_of_opensBlock (hwrite : compiler.IsWritable) {rest : List Piece}
    (hnames : ∀ t, .token t ∈ rest → IsName t.name.toList) (h : opensBlock rest = true) :
    ∃ (b : Pattern.Block) (more : List Piece) (next : Nat),
      Pattern.bracket? none ('[' :: compiler.written constraints rest) =
        some (b, { compiler with next := next }.written constraints more) ∧
      weigh (compiler.paramsOf constraints rest) <
        b.toParam.weight + weigh ({ compiler with next := next }.paramsOf constraints more) ∧
      more <:+ rest := by
  obtain ⟨type, name, ending, optional, more, next, htype, hname, hnamed, hwritten, hend, hweight,
    hmore⟩ := exists_type_of_opensBlock constraints hwrite hnames h
  let p : Param := ⟨.ofList name, optional, some (.ofList type)⟩
  have hp : Pattern.IsWritable p :=
    ⟨by simpa [p] using htype, by simpa [p] using hname, by simpa [p] using hnamed⟩
  have hbracket : Pattern.bracket? none _ = _ := Pattern.bracket?_of_blockEnd? hp hend
  refine ⟨Pattern.blockOf none p optional, more, next, ?_, ?_, hmore⟩
  · rw [hwritten, ← hbracket]
    simp [p]
  · rw [weight_toParam]
    simp only [Pattern.blockOf, p, Option.getD_some, String.toList_ofList]
    omega

/-! ## Reading what has been written -/

/--
How some pieces are found in the text written for them.  No parameter gets lost,
and one is added or changed unless the pieces stay apart from the blocks.
-/
structure IsReadBack (constraints : Pairs String) (compiler : Compiler) (pieces : List Piece) :
    Prop where
  weight : weigh (compiler.paramsOf constraints pieces) ≤
    weigh (Pattern.params (Pattern.scan (compiler.written constraints pieces)))
  params : Pattern.params (Pattern.scan (compiler.written constraints pieces)) =
    compiler.paramsOf constraints pieces ↔ isSeparate pieces = true
  template : isSeparate pieces = true →
    Pattern.toTemplate (Pattern.scan (compiler.written constraints pieces)) = pieces

theorem IsReadBack.of_not_separate {pieces : List Piece} (hseparate : isSeparate pieces = false)
    (hweight : weigh (compiler.paramsOf constraints pieces) ≤
      weigh (Pattern.params (Pattern.scan (compiler.written constraints pieces))))
    (hparams : Pattern.params (Pattern.scan (compiler.written constraints pieces)) ≠
      compiler.paramsOf constraints pieces) :
    IsReadBack constraints compiler pieces where
  weight := hweight
  params := iff_of_false hparams (by simp [hseparate])
  template := fun h => absurd (hseparate.symm.trans h) Bool.false_ne_true

theorem isReadBack_literal {c : Char} {rest : List Piece}
    (hscan : Pattern.params (Pattern.scan (c :: compiler.written constraints rest)) =
        Pattern.params (Pattern.scan (compiler.written constraints rest)) ∧
      Pattern.toTemplate (Pattern.scan (c :: compiler.written constraints rest)) =
        .literal c :: Pattern.toTemplate (Pattern.scan (compiler.written constraints rest)))
    (hc : c = '[' → opensBlock rest = false) (ih : IsReadBack constraints compiler rest) :
    IsReadBack constraints compiler (.literal c :: rest) := by
  have hseparate : isSeparate (.literal c :: rest) = isSeparate rest := by
    rw [isSeparate]
    by_cases hbracket : c = '['
    · simp [hc hbracket]
    · simp [hbracket]
  constructor
  · rw [Compiler.written_literal, Compiler.paramsOf_literal, hscan.1]
    exact ih.weight
  · rw [Compiler.written_literal, Compiler.paramsOf_literal, hscan.1, hseparate]
    exact ih.params
  · intro h
    rw [Compiler.written_literal, hscan.2, ih.template (hseparate ▸ h)]

theorem isReadBack_opening (hwrite : compiler.IsWritable) {rest : List Piece}
    (hnames : ∀ t, .token t ∈ rest → IsName t.name.toList) (hopens : opensBlock rest = true)
    (ih : ∀ (more : List Piece) (next : Nat), more <:+ rest →
      IsReadBack constraints { compiler with next := next } more) :
    IsReadBack constraints compiler (.literal '[' :: rest) := by
  obtain ⟨b, more, next, hbracket, hweight, hmore⟩ :=
    bracket?_of_opensBlock constraints hwrite hnames hopens
  have hmoreWeight := (ih more next hmore).weight
  have hlarger : weigh (compiler.paramsOf constraints (.literal '[' :: rest)) <
      weigh (Pattern.params (Pattern.scan (compiler.written constraints (.literal '[' :: rest)))) := by
    rw [Compiler.written_literal, Pattern.scan_of_bracket? hbracket, Compiler.paramsOf_literal,
      Pattern.params_block, weigh_cons]
    omega
  exact .of_not_separate constraints (by simp [isSeparate, hopens]) hlarger.le
    fun h => hlarger.ne' (congrArg weigh h)

theorem isReadBack_marked (hwrite : compiler.IsWritable) {t : Token} {rest : List Piece}
    (hname : IsName t.name.toList) (ht : t.optional = false)
    (ih : ∀ next : Nat, IsReadBack constraints { compiler with next := next } rest) :
    IsReadBack constraints compiler (.token t :: .literal '?' :: rest) := by
  obtain ⟨p, next, hp, htag, -, hoptional, hwritten, hparams⟩ :=
    Compiler.exists_param_of_token constraints hwrite hname (.literal '?' :: rest)
  have hpo : p.optional = false := by rw [hoptional, ht]
  have hscan := Pattern.scan_of_bracket? (Pattern.bracket?_marked hp hpo none
    ({ compiler with next := next }.written constraints rest))
  refine .of_not_separate constraints (by simp [isSeparate, ht]) ?_ ?_
  · rw [hwritten, hparams, Compiler.written_literal, hscan, Pattern.params_block,
      Pattern.toParam_blockOf htag, weigh_cons, weigh_cons, Compiler.paramsOf_literal]
    exact Nat.add_le_add_left (ih next).weight _
  · rw [hwritten, hparams, Compiler.written_literal, hscan, Pattern.params_block,
      Pattern.toParam_blockOf htag]
    intro h
    have hsame := congrArg Param.optional (List.cons.inj h).1
    simp [hpo] at hsame

theorem isReadBack_unmarked (hwrite : compiler.IsWritable) {t : Token} {rest : List Piece}
    (hname : IsName t.name.toList) (hmark : ¬ (t.optional = false ∧ rest.head? = some (.literal '?')))
    (ih : ∀ next : Nat, IsReadBack constraints { compiler with next := next } rest) :
    IsReadBack constraints compiler (.token t :: rest) := by
  obtain ⟨p, next, hp, htag, hpname, hoptional, hwritten, hparams⟩ :=
    Compiler.exists_param_of_token constraints hwrite hname rest
  have hseparate : isSeparate (.token t :: rest) = isSeparate rest := by
    cases ht : t.optional <;> simp_all [isSeparate]
  have hscan : Pattern.scan (compiler.written constraints (.token t :: rest)) =
      .block (Pattern.blockOf none p p.optional) ::
        Pattern.scan ({ compiler with next := next }.written constraints rest) := by
    rw [hwritten]
    cases hpo : p.optional with
    | true => exact Pattern.scan_of_bracket? (Pattern.bracket?_optional hp hpo none _)
    | false =>
        refine Pattern.scan_of_bracket? (Pattern.bracket?_required hp hpo none fun hhead => ?_)
        rcases head?_text_tagPieces _ _ _ _ hhead with hliteral | ⟨_, -, habsurd⟩
        · exact hmark ⟨hoptional ▸ hpo, hliteral⟩
        · simp at habsurd
  have hrest := ih next
  constructor
  · rw [hscan, hparams, Pattern.params_block, Pattern.toParam_blockOf htag, weigh_cons, weigh_cons]
    exact Nat.add_le_add_left hrest.weight _
  · rw [hscan, hparams, Pattern.params_block, Pattern.toParam_blockOf htag, hseparate,
      ← hrest.params]
    exact ⟨fun h => (List.cons.inj h).2, congrArg _⟩
  · intro h
    have htoken : Pattern.Piece.toTemplate (.block (Pattern.blockOf none p p.optional)) =
        [.token t] := by
      simp [Pattern.Piece.toTemplate, Pattern.blockOf, hpname, hoptional]
    rw [hscan, Pattern.toTemplate, List.flatMap_cons, htoken, ← Pattern.toTemplate,
      hrest.template (hseparate ▸ h)]
    rfl

theorem isReadBack_token (hwrite : compiler.IsWritable) {t : Token} {rest : List Piece}
    (hname : IsName t.name.toList)
    (ih : ∀ (more : List Piece) (next : Nat), more <:+ rest →
      IsReadBack constraints { compiler with next := next } more) :
    IsReadBack constraints compiler (.token t :: rest) := by
  by_cases hmark : t.optional = false ∧ rest.head? = some (.literal '?')
  · obtain ⟨more, rfl⟩ := List.head?_eq_some_iff.mp hmark.2
    exact isReadBack_marked constraints hwrite hname hmark.1
      fun next => ih more next (List.suffix_cons _ _)
  · exact isReadBack_unmarked constraints hwrite hname hmark
      fun next => ih rest next (List.suffix_refl _)

/--
The induction is on the number of pieces, since a block may reach over the tokens
and the literal text behind its bracket.
-/
theorem isReadBack (hwrite : compiler.IsWritable) {pieces : List Piece}
    (hnames : ∀ t, .token t ∈ pieces → IsName t.name.toList) :
    IsReadBack constraints compiler pieces := by
  induction hlength : pieces.length using Nat.strongRecOn generalizing pieces compiler with
  | ind length ih =>
      have hshorter {piece : Piece} {rest : List Piece} (heq : pieces = piece :: rest)
          (more : List Piece) (next : Nat) (hmore : more <:+ rest) :
          IsReadBack constraints { compiler with next := next } more := by
        subst heq
        rw [List.length_cons] at hlength
        have hwrite' : Compiler.IsWritable { compiler with next := next } := hwrite
        exact ih more.length (by have := hmore.length_le; omega) hwrite'
          (fun t ht => hnames t (List.mem_cons_of_mem _ (hmore.mem ht))) rfl
      cases pieces with
      | nil =>
          constructor <;> simp [Compiler.written, Compiler.paramsOf, tagPieces, Pattern.params,
            Pattern.blocks, Pattern.toTemplate, weigh, isSeparate]
      | cons piece rest =>
          have hrest : ∀ t, .token t ∈ rest → IsName t.name.toList :=
            fun t ht => hnames t (List.mem_cons_of_mem _ ht)
          cases piece with
          | token t => exact isReadBack_token constraints hwrite (hnames t List.mem_cons_self) (hshorter rfl)
          | literal c =>
              have ih := hshorter rfl rest compiler.next (List.suffix_refl _)
              by_cases hc : c = '['
              · subst hc
                cases hopens : opensBlock rest with
                | true => exact isReadBack_opening constraints hwrite hrest hopens (hshorter rfl)
                | false =>
                    have hnone := bracket?_of_opensBlock_eq_false constraints hwrite hrest hopens
                    have hblock : Pattern.block? ('[' :: compiler.written constraints rest) = none := by
                      rw [Pattern.block?, if_neg (by decide), hnone]
                    have hscan := Pattern.scan_of_block?_eq_none hblock
                    exact isReadBack_literal constraints (by rw [hscan]; exact ⟨rfl, rfl⟩) (fun _ => hopens) ih
              · exact isReadBack_literal constraints (Pattern.scan_cons_of_ne hc _)
                  (fun h => absurd h hc) ih

/-! ## Compiled templates -/

theorem dropFillers (compiler : Compiler) (pieces : List Piece) :
    compiler.written constraints (pieces.dropWhile Piece.isFiller) =
        Path.trimLeft (compiler.written constraints pieces) ∧
      compiler.paramsOf constraints (pieces.dropWhile Piece.isFiller) =
        compiler.paramsOf constraints pieces ∧
      isSeparate (pieces.dropWhile Piece.isFiller) = isSeparate pieces := by
  induction pieces with
  | nil => exact ⟨rfl, rfl, rfl⟩
  | cons piece rest ih =>
      by_cases hpiece : piece.isFiller = true
      · rw [List.dropWhile_cons_of_pos hpiece, ih.1, ih.2.1, ih.2.2]
        cases piece with
        | token t => simp [Piece.isFiller] at hpiece
        | literal c =>
            have hc : c ≠ '[' := by
              rintro rfl
              simp [Piece.isFiller, Path.isFiller] at hpiece
            refine ⟨?_, rfl, ?_⟩
            · rw [Compiler.written_literal]
              exact (List.dropWhile_cons_of_pos (p := Path.isFiller) hpiece).symm
            · simp [isSeparate, hc]
      · rw [List.dropWhile_cons_of_neg hpiece]
        refine ⟨(Path.trimLeft_eq fun d hd => ?_).symm, rfl, rfl⟩
        rcases head?_text_tagPieces _ _ _ _ hd with hliteral | ⟨_, -, rfl⟩
        · rw [List.head?_cons, Option.some.injEq] at hliteral
          simpa [hliteral, Piece.isFiller] using hpiece
        · rfl

/--
The pattern of a template is read as the parameters that were compiled just if
no literal bracket begins a block and no question mark follows a required token.
All other text of the template is then literal, and only the slashes and spaces
at its start are missing.
-/
theorem params_scan_compile_iff (hwrite : compiler.IsWritable) (template : String) :
    let compiled := (compiler.compile template constraints).1
    let pieces := Pattern.scan compiled.pattern.toList
    (Pattern.params pieces = compiled.params ↔ isSeparate (scan template.toList) = true) ∧
      (isSeparate (scan template.toList) = true →
        Pattern.toTemplate pieces = (scan template.toList).dropWhile Piece.isFiller) := by
  intro compiled pieces
  obtain ⟨hwritten, hparams, hseparate⟩ := dropFillers constraints compiler (scan template.toList)
  have hpieces : pieces = Pattern.scan
      (compiler.written constraints ((scan template.toList).dropWhile Piece.isFiller)) := by
    simp only [pieces, compiled, Compiler.compile, String.toList_ofList, hwritten]
    rfl
  have hback : IsReadBack constraints compiler ((scan template.toList).dropWhile Piece.isFiller) :=
    isReadBack constraints hwrite
      fun t ht => isName_of_token_mem_scan ((List.dropWhile_suffix _).mem ht)
  have hfound := hback.params
  rw [← hpieces, hparams, hseparate] at hfound
  refine ⟨hfound, fun h => ?_⟩
  rw [hpieces]
  exact hback.template (hseparate ▸ h)

/-- Marks, tags and text between blocks are read as they were meant. -/
theorem params_scan_compile_posts :
    ({} : Compiler).IsWritable ∧ isSeparate (scan "posts/{id}[1]?/{ slug? }?".toList) = true ∧
      Pattern.params (Pattern.scan
        ((({} : Compiler).compile "posts/{id}[1]?/{ slug? }?" ⟨[("id", "[0-9]+")]⟩).1.pattern.toList)) =
        [⟨"id", false, some "sp1"⟩, ⟨"slug", true, none⟩] := by
  have hseparate : isSeparate (scan "posts/{id}[1]?/{ slug? }?".toList) = true := by
    decide +kernel
  have hread := params_scan_compile_iff ⟨[("id", "[0-9]+")]⟩
    Compiler.isWritable_default "posts/{id}[1]?/{ slug? }?"
  refine ⟨Compiler.isWritable_default, hseparate, (hread.1.mpr hseparate).trans ?_⟩
  decide +kernel

/--
A required parameter with a question mark behind it is read as an optional one,
and text in brackets as a parameter that was not compiled.
-/
theorem params_scan_misread :
    (({} : Compiler).compile "{id}?" ∅).1 = ⟨"[:id]?", [⟨"id", false, none⟩], ∅⟩ ∧
      Pattern.params (Pattern.scan "[:id]?".toList) = [⟨"id", true, none⟩] ∧
      (({} : Compiler).compile "[i:n]" ∅).1 = ⟨"[i:n]", [], ∅⟩ ∧
      Pattern.params (Pattern.scan "[i:n]".toList) = [⟨"n", false, some "i"⟩] := by
  refine ⟨?_, ?_, ?_, ?_⟩ <;> decide +kernel

end

end Template

end HttpRouting
