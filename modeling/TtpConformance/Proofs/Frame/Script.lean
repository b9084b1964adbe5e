import Mathlib.Data.Bool.AllAny
import TtpConformance.Proofs.Address.Target
import TtpConformance.Proofs.Shell.Spelling
import TtpConformance.Scenario.Injection

/-!
# The call of the frame generator

The command line that sends a frame is read by a shell before the frame generator sees it.
Macro values stand in it between double quotes, with parentheses and commas; the payload
has double quotes that are part of it, and spaces.  Each of these is a spelling of one
word, so that the generator is called with the words that were meant: its options, and
twelve macros, whose values tell the frame.

## Main definitions

* `Frame.operands` — the macros as the generator is to get them.
* `Frame.ofOperands?` — reading a frame off them.
* `Generator.arguments`, `Generator.spelled` — the words of a call, and what is written for
  them.
* `Generator.ReadAsMeant` — the call gets through the shell.

## Main statements

* `Frame.ofOperands?_operands` — the frame is read back.
* `Generator.toList_script` — the command line consists of spelled words.
* `Generator.parse_script` — the shell reads the words of the call.
* `Generator.script_readAsMeant` — so do the calls that scenarios make.
-/

namespace TtpConformance

/-! ## Reading macros back -/

namespace Frame

/-- A macro with its value. -/
def defineText (define : String × String) : String := define.1 ++ "=" ++ define.2

/-- The macros as the generator is to get them, the payload in double quotes of its own. -/
def operands (f : Frame) : List String :=
  f.defines.map defineText ++ ["PAYLOAD=\"" ++ f.opcode.text ++ "\""]

/-- The value that operands give a macro. -/
def macroValue? (name : String) (operands : List String) : Option (List Char) :=
  operands.findSome? fun operand =>
    (Text.cutAt '=' operand.toList).bind fun (front, value) =>
      if front = name.toList then some value else none

/-- A decimal number up to a bound. -/
def readNumber? (bound : Nat) (value : List Char) : Option Nat :=
  (Text.readNat .decimal bound value).toOption

/-- The number that a constant of the template language stands for. -/
def readConstant? (bits : Nat) (value : List Char) : Option Nat :=
  (("c" ++ Text.decimal bits ++ "(").toList.isPrefixOf? value).bind fun inner =>
    if inner.getLast? = some ')' then readNumber? (2 ^ bits - 1) inner.dropLast else none

/-- The code of a node. -/
def readNode? (value : List Char) : Option String :=
  ("0,0,x".toList.isPrefixOf? value).map .ofList

/-- The kind of frame with a code. -/
def readOpcode? : Nat → Option Opcode
  | 0 => some .openRequest
  | 3 => some .closeRequest
  | 6 => some .payload
  | _ => none

/-- The frame that operands describe, and the two lengths that they give it. -/
def ofOperands? (operands : List String) : Option (Frame × Nat × Nat) := do
  let destination ← (Mac.parse (.ofList (← macroValue? "DST_MAC" operands))).toOption
  let source ← (Mac.parse (.ofList (← macroValue? "SRC_MAC" operands))).toOption
  let sourceNode ← readNode? (← macroValue? "SRC_NODE" operands)
  let destinationNode ← readNode? (← macroValue? "DST_NODE" operands)
  let opcode ← readOpcode? (← readNumber? 255 (← macroValue? "CODE" operands))
  let number ← readConstant? 8 (← macroValue? "VCID" operands)
  let channel ← (Channel.ofUInt8 (UInt8.ofNat number)).toOption
  let totalLength ← readConstant? 16 (← macroValue? "TOTLN" operands)
  let nocLength ← readConstant? 16 (← macroValue? "NOCLN" operands)
  return ({ destination, source, sourceNode, destinationNode, opcode, channel },
    totalLength, nocLength)

theorem readNumber?_decimal {bound n : Nat} (h : n ≤ bound) :
    readNumber? bound (Text.decimal n).toList = some n := by
  rw [readNumber?, Text.decimal, String.toList_ofList, Text.readNat_digits h]
  rfl

theorem readConstant?_constant {bits n : Nat} (h : n ≤ 2 ^ bits - 1) :
    readConstant? bits (constant bits (Text.decimal n)).toList = some n := by
  have hfront : ("c" ++ Text.decimal bits ++ "(").toList.isPrefixOf?
      (constant bits (Text.decimal n)).toList = some ((Text.decimal n).toList ++ [')']) := by
    rw [List.isPrefixOf?_eq_some_iff_append_eq]
    simp [constant]
  rw [readConstant?, hfront]
  simpa using readNumber?_decimal h

theorem readNode?_text (code : String) : readNode? ("0,0,x" ++ code).toList = some code := by
  have hfront : "0,0,x".toList.isPrefixOf? ("0,0,x" ++ code).toList = some code.toList := by
    rw [List.isPrefixOf?_eq_some_iff_append_eq, String.toList_append]
  rw [readNode?, hfront, Option.map_some, String.ofList_toList]

theorem readOpcode?_code (o : Opcode) : readOpcode? o.code = some o := by cases o <;> rfl

/-- The value that a list of macros gives one of them, where no name has an equals sign. -/
theorem macroValue?_map {name value : String} {defines : List (String × String)}
    {more : List String} (hnames : ∀ define ∈ defines, '=' ∉ define.1.toList)
    (h : defines.lookup name = some value) :
    macroValue? name (defines.map defineText ++ more) = some value.toList := by
  induction defines with
  | nil => cases h
  | cons define defines ih =>
      obtain ⟨name', value'⟩ := define
      have hcut : Text.cutAt '=' (defineText (name', value')).toList =
          some (name'.toList, value'.toList) :=
        Text.cutAt_eq_some_iff.mpr ⟨by simp [defineText], hnames _ List.mem_cons_self⟩
      rw [List.map_cons, List.cons_append, macroValue?, List.findSome?_cons, hcut]
      by_cases hname : name = name'
      · subst hname
        rw [List.lookup_cons_self] at h
        cases h
        simp
      · have hne : ¬name'.toList = name.toList := fun heq =>
          hname (String.toList_inj.mp heq).symm
        have hlookup : defines.lookup name = some value := by
          rwa [List.lookup_cons, beq_eq_false_iff_ne.mpr hname] at h
        simp only [Option.bind_some, if_neg hne]
        exact ih (fun d hd => hnames d (List.mem_cons_of_mem _ hd)) hlookup

theorem equals_not_mem_defines {f : Frame} : ∀ define ∈ f.defines, '=' ∉ define.1.toList := by
  simp [defines]

/-- A frame and its lengths are read off the macros that the generator is to get. -/
theorem ofOperands?_operands (f : Frame) :
    ofOperands? f.operands = some (f, f.opcode.totalLength, f.opcode.nocLength) := by
  have hvalue (name : String) {value : String} (h : f.defines.lookup name = some value) :
      macroValue? name f.operands = some value.toList :=
    macroValue?_map equals_not_mem_defines h
  have hcode : f.opcode.code ≤ 255 := by cases f.opcode <;> decide
  have htotal : f.opcode.totalLength ≤ 2 ^ 16 - 1 := by cases f.opcode <;> decide
  have hnoc : f.opcode.nocLength ≤ 2 ^ 16 - 1 := by cases f.opcode <;> decide
  have hchannel : f.channel.value.toNat ≤ 2 ^ 8 - 1 := Nat.le_of_lt_succ f.channel.value.toNat_lt
  have hnumber : readConstant? 8 (constant 8 f.channel.text).toList =
      some f.channel.value.toNat := readConstant?_constant hchannel
  have hchannelOf : Channel.ofUInt8 (UInt8.ofNat f.channel.value.toNat) = .ok f.channel := by
    rw [UInt8.ofNat_toNat]
    exact dif_pos f.channel.le_two
  have hdestination := hvalue "DST_MAC" rfl
  have hsource := hvalue "SRC_MAC" rfl
  have hsourceNode := hvalue "SRC_NODE" rfl
  have hdestinationNode := hvalue "DST_NODE" rfl
  have hopcode := hvalue "CODE" rfl
  have hvcid := hvalue "VCID" rfl
  have htotalLength := hvalue "TOTLN" rfl
  have hnocLength := hvalue "NOCLN" rfl
  simp only [ofOperands?, hdestination, hsource, hsourceNode, hdestinationNode, hopcode, hvcid,
    htotalLength, hnocLength, Option.bind_eq_bind, Option.bind_some, String.ofList_toList,
    Mac.parse_text, Except.toOption, readNode?_text, readNumber?_decimal hcode, readOpcode?_code,
    hnumber, hchannelOf, readConstant?_constant htotal, readConstant?_constant hnoc]
  rfl

end Frame

/-! ## Spelled words -/

namespace Shell

theorem isOrdinary_of_isDigit {c : Char} (h : Text.isDigit c = true) : IsOrdinary c := by
  have hspecial : special.all (fun d => !Text.isDigit d) = true := by decide
  exact Text.not_mem_of_forall (by rw [h]; rfl) (List.all_eq_true.mp hspecial)

theorem isPlain_decimal (n : Nat) : IsPlain (Text.decimal n) := by
  have hdigits : (Text.decimal n).toList = Text.digits n := String.toList_ofList
  have hall : ∀ c ∈ Text.digits n, Text.isDigit c = true := fun c hc =>
    Text.isDigit_of_mem_digits hc
  refine ⟨hdigits ▸ Text.digits_ne_nil n, ?_, ?_⟩
  · rw [hdigits]
    exact fun hhead => absurd (hall '#' (List.mem_of_head? hhead)) (by decide)
  · rw [hdigits]
    exact fun c hc => isOrdinary_of_isDigit (hall c hc)

theorem isLiteral_of_isHexDigit {c : Char} (h : Text.isHexDigit c = true) : IsLiteral c := by
  have hspecial : specialInQuotes.all (fun d => !Text.isHexDigit d) = true := by decide
  exact Text.not_mem_of_forall (by rw [h]; rfl) (List.all_eq_true.mp hspecial)

theorem allLiteral_decimal (n : Nat) : AllLiteral (Text.decimal n) := by
  intro c hc
  rw [Text.decimal, String.toList_ofList] at hc
  exact isLiteral_of_isHexDigit (Text.isHexDigit_of_isDigit (Text.isDigit_of_mem_digits hc))

theorem allLiteral_mac (m : Mac) : AllLiteral m.text := by
  intro c hc
  rcases Address.mem_joinOctets_cases hc with rfl | hdigit
  · decide
  · exact isLiteral_of_isHexDigit hdigit

end Shell

namespace Frame

theorem isPlain_of_mem_defines {f : Frame} : ∀ define ∈ f.defines, Shell.IsPlain define.1 := by
  simp only [defines, List.mem_cons, List.not_mem_nil, or_false, forall_eq_or_imp, forall_eq]
  decide

/-- The values of macros stand for themselves between double quotes, if the nodes' codes do. -/
theorem allLiteral_of_mem_defines {f : Frame} (hsource : Shell.AllLiteral f.sourceNode)
    (hdestination : Shell.AllLiteral f.destinationNode) :
    ∀ define ∈ f.defines, Shell.AllLiteral define.2 := by
  have hnumber := Shell.allLiteral_decimal
  have hconstant (bits n : Nat) : Shell.AllLiteral (constant bits (Text.decimal n)) :=
    (((Shell.AllLiteral.append (by decide) (hnumber bits)).append (by decide)).append
      (hnumber n)).append (by decide)
  have hnode {code : String} (h : Shell.AllLiteral code) : Shell.AllLiteral ("0,0,x" ++ code) :=
    .append (by decide) h
  simp only [defines, List.mem_cons, List.not_mem_nil, or_false, forall_eq_or_imp, forall_eq]
  exact ⟨Shell.allLiteral_mac _, Shell.allLiteral_mac _, hnumber _, hconstant _ _, hnode hsource,
    hnode hdestination, hconstant _ _, hnumber _, hconstant _ _, hconstant _ _, hconstant _ _⟩

end Frame

namespace Generator

/-- The words of the option for the pause between copies. -/
def pauseWords : Option Duration → List String
  | some d => ["-t", Text.decimal d.millis ++ "ms"]
  | none => []

/-- The words in front of the macros. -/
def leadingWords (g : Generator) : List String :=
  ["sudo", g.program, "-p", "-o", g.device, "-i", g.template, "-n", Text.decimal g.count] ++
    pauseWords g.interval

/-- The words of a call. -/
def arguments (g : Generator) : List String :=
  g.leadingWords ++ g.frame.operands.flatMap (["-D", ·])

/-- What is written for a macro with its value. -/
def spelledDefine (define : String × String) : List Char :=
  define.1.toList ++ '=' :: '\"' :: (define.2.toList ++ ['\"'])

/-- What is written for the payload. -/
def spelledPayload (payload : String) : List Char :=
  "PAYLOAD=".toList ++ '\\' :: '\"' :: (escapeSpaces payload.toList ++ ['\\', '\"'])

/-- What is written for macros and a payload. -/
def spelledOperands (defines : List (String × String)) (payload : String) : List (List Char) :=
  defines.map spelledDefine ++ [spelledPayload payload]

/-- What is written for the words of a call. -/
def spelled (g : Generator) : List (List Char) :=
  g.leadingWords.map String.toList ++
    (spelledOperands g.frame.defines g.frame.opcode.text).flatMap (["-D".toList, ·])

theorem toList_defineOption (name value : String) :
    (defineOption name value).toList =
      ["-D".toList, spelledDefine (name, value)].flatMap (' ' :: ·) := by
  simp [defineOption, spelledDefine]

theorem toList_payloadOption (payload : String) :
    (payloadOption payload).toList =
      ["-D".toList, spelledPayload payload].flatMap (' ' :: ·) := by
  unfold payloadOption spelledPayload
  generalize escapeSpaces payload.toList = cs
  simp

/-- The options for macros and a payload. -/
def operandOptions (defines : List (String × String)) (payload : String) : String :=
  String.join (defines.map fun (name, value) => defineOption name value) ++ payloadOption payload

/-- What the command line goes on with in front of those. -/
def leadingOptions (g : Generator) : String :=
  "sudo " ++ g.program ++ " -p -o " ++ g.device ++ " -i " ++ g.template ++ " -n " ++
    Text.decimal g.count ++ intervalOption g.interval

theorem script_eq (g : Generator) :
    g.script = "cd /tmp; " ++ g.leadingOptions ++
      operandOptions g.frame.defines g.frame.opcode.text ++ " > /dev/null" := by
  have hfirst : "cd /tmp; sudo " = "cd /tmp; " ++ "sudo " := by decide
  unfold script leadingOptions operandOptions
  rw [hfirst]
  simp only [String.append_assoc]

theorem toList_operandOptions (defines : List (String × String)) (payload : String) :
    (operandOptions defines payload).toList =
      ((spelledOperands defines payload).flatMap (["-D".toList, ·])).flatMap (' ' :: ·) := by
  rw [operandOptions, spelledOperands, List.flatMap_append, List.flatMap_append, String.toList_append,
    String.toList_join, toList_payloadOption, List.flatMap_singleton]
  congr 1
  simp only [List.flatMap_map, List.flatMap_assoc, toList_defineOption]

theorem toList_leadingOptions (g : Generator) :
    g.leadingOptions.toList ++ [' '] =
      (g.leadingWords.map String.toList).flatMap (· ++ [' ']) := by
  cases hinterval : g.interval <;>
    simp [leadingOptions, leadingWords, pauseWords, intervalOption, hinterval]

/-- Spaces in front of words and one behind all are spaces behind each, and one in front. -/
theorem flatMap_space (words : List (List Char)) :
    words.flatMap (' ' :: ·) ++ [' '] = ' ' :: words.flatMap (· ++ [' ']) := by
  induction words with
  | nil => rfl
  | cons word words ih => simp [ih]

/-- The command line consists of the spelled words, with a space behind each. -/
theorem toList_script (g : Generator) :
    g.script.toList =
      Shell.commandPair ["cd".toList] "/tmp".toList g.spelled "/dev/null".toList := by
  have hwords : g.spelled.flatMap (· ++ [' ']) = g.leadingOptions.toList ++
      ((operandOptions g.frame.defines g.frame.opcode.text).toList ++ [' ']) := by
    rw [spelled, List.flatMap_append, ← toList_leadingOptions, toList_operandOptions,
      flatMap_space, List.append_assoc, List.singleton_append]
  rw [Shell.commandPair, hwords, script_eq]
  generalize g.leadingOptions = leading, operandOptions _ _ = operands
  simp

/-- A macro whose value stands between double quotes. -/
theorem spellsWord_define {define : String × String} (hname : Shell.IsPlain define.1)
    (hvalue : Shell.AllLiteral define.2) :
    Shell.SpellsWord (spelledDefine define) (Frame.defineText define) := by
  have hspells : Shell.Spells ('=' :: '\"' :: (define.2.toList ++ ['\"']))
      ("=" ++ define.2).toList := by
    simpa using Shell.Spells.ordinary (c := '=') (by decide) (.quoted hvalue .nil)
  rw [spelledDefine, Frame.defineText, String.append_assoc]
  exact hname.spellsWord_append hspells

/-- What is left of prose once its spaces are escaped spells it. -/
theorem spells_escapeSpaces {text : List Char} (h : ∀ c ∈ text, c = ' ' ∨ Shell.IsOrdinary c) :
    Shell.Spells (escapeSpaces text) text := by
  induction text with
  | nil => exact .nil
  | cons c cs ih =>
      have hrest := ih fun d hd => h d (List.mem_cons_of_mem c hd)
      rw [escapeSpaces, List.flatMap_cons]
      by_cases hspace : c = ' '
      · rw [if_pos hspace, hspace]
        exact .escaped (by decide) hrest
      · rw [if_neg hspace]
        exact .ordinary ((h c List.mem_cons_self).resolve_left hspace) hrest

/-- The payload, with its own double quotes behind backslashes. -/
theorem spellsWord_payload {payload : String} (h : Shell.IsProse payload) :
    Shell.SpellsWord (spelledPayload payload) ("PAYLOAD=" ++ ("\"" ++ payload ++ "\"")) := by
  have hquote : Shell.Spells ['\\', '\"'] ['\"'] := .escaped (by decide) .nil
  have hspells : Shell.Spells ('\\' :: '\"' :: (escapeSpaces payload.toList ++ ['\\', '\"']))
      ("\"" ++ payload ++ "\"").toList := by
    simpa using Shell.Spells.escaped (c := '\"') (by decide)
      ((spells_escapeSpaces h).append hquote)
  exact Shell.IsPlain.spellsWord_append (by decide) hspells

theorem isProse_text (o : Opcode) : Shell.IsProse o.text := by
  cases o with
  | openRequest => exact .ofList (by decide +kernel)
  | closeRequest => exact .ofList (by decide +kernel)
  | payload =>
      -- one of the eight literals after the other: their concatenation takes long to evaluate
      iterate 7 refine Shell.IsProse.append ?_ (.ofList (by decide +kernel))
      exact .ofList (by decide +kernel)

theorem forall₂_spelledOperands {f : Frame} (hsource : Shell.AllLiteral f.sourceNode)
    (hdestination : Shell.AllLiteral f.destinationNode) :
    List.Forall₂ Shell.SpellsWord (spelledOperands f.defines f.opcode.text) f.operands := by
  have hdefines : List.Forall₂ Shell.SpellsWord (f.defines.map spelledDefine)
      (f.defines.map Frame.defineText) := by
    rw [List.forall₂_map_left_iff, List.forall₂_map_right_iff, List.forall₂_same]
    exact fun define hdefine => spellsWord_define (Frame.isPlain_of_mem_defines define hdefine)
      (Frame.allLiteral_of_mem_defines hsource hdestination define hdefine)
  have hname : "PAYLOAD=\"" = "PAYLOAD=" ++ "\"" := by decide
  have hpayload := spellsWord_payload (isProse_text f.opcode)
  rw [← String.append_assoc, ← String.append_assoc, ← hname] at hpayload
  exact List.rel_append hdefines (.cons hpayload .nil)

variable {g : Generator}

theorem isPlain_of_mem_leadingWords (hprogram : Shell.IsPlain g.program)
    (hdevice : Shell.IsPlain g.device) (htemplate : Shell.IsPlain g.template) :
    ∀ word ∈ g.leadingWords, Shell.IsPlain word := by
  have hpause : ∀ word ∈ pauseWords g.interval, Shell.IsPlain word := by
    cases g.interval with
    | none => exact fun word hword => absurd hword List.not_mem_nil
    | some d =>
        simp only [pauseWords, List.mem_cons, List.not_mem_nil, or_false, forall_eq_or_imp,
          forall_eq]
        have hunit : ∀ c ∈ "ms".toList, Shell.IsOrdinary c :=
          List.all_iff_forall_prop.mp (by decide)
        exact ⟨by decide, (Shell.isPlain_decimal _).append hunit⟩
  intro word hword
  rcases List.mem_append.mp hword with hword | hword
  · simp only [List.mem_cons, List.not_mem_nil, or_false] at hword
    rcases hword with rfl | rfl | rfl | rfl | rfl | rfl | rfl | rfl | rfl
    · decide
    · exact hprogram
    · decide
    · decide
    · exact hdevice
    · decide
    · exact htemplate
    · decide
    · exact Shell.isPlain_decimal _
  · exact hpause word hword

theorem forall₂_spelled (hprogram : Shell.IsPlain g.program)
    (hdevice : Shell.IsPlain g.device) (htemplate : Shell.IsPlain g.template)
    (hsource : Shell.AllLiteral g.frame.sourceNode)
    (hdestination : Shell.AllLiteral g.frame.destinationNode) :
    List.Forall₂ Shell.SpellsWord g.spelled g.arguments := by
  have hleading : List.Forall₂ Shell.SpellsWord (g.leadingWords.map String.toList)
      g.leadingWords := by
    rw [List.forall₂_map_left_iff, List.forall₂_same]
    exact fun word hword =>
      (isPlain_of_mem_leadingWords hprogram hdevice htemplate word hword).spellsWord
  have hoption : Shell.IsPlain "-D" := by decide
  exact List.rel_append hleading (List.rel_flatMap (forall₂_spelledOperands hsource hdestination)
    fun _ _ hoperand => .cons hoption.spellsWord (.cons hoperand .nil))

/-- The shell reads the words of a call, and that nothing of what it prints is to be seen. -/
theorem parse_script (hprogram : Shell.IsPlain g.program)
    (hdevice : Shell.IsPlain g.device) (htemplate : Shell.IsPlain g.template)
    (hsource : Shell.AllLiteral g.frame.sourceNode)
    (hdestination : Shell.AllLiteral g.frame.destinationNode) :
    ∃ change call,
      Shell.parse g.script = .ok (.sequence (.simple change) (.simple call)) ∧
      change.Reads ["cd", "/tmp"] [] ∧
      call.Reads g.arguments [(1, .write, "/dev/null")] := by
  have hcd : Shell.IsPlain "cd" := by decide
  have htmp : Shell.IsPlain "/tmp" := by decide
  have hnull : Shell.IsPlain "/dev/null" := by decide
  rw [← String.ofList_toList (s := g.script), toList_script]
  exact Shell.parse_commandPair (.cons hcd.spellsWord .nil) htmp.spellsWord
    (forall₂_spelled hprogram hdevice htemplate hsource hdestination) hnull.spellsWord
    ⟨"cd", [], rfl, by decide⟩ ⟨"sudo", _, rfl, by decide⟩

end Generator

/-! ## The calls of scenarios -/

/-- Six hexadecimal digits, as nodes address each other. -/
structure IsNodeCode (code : String) : Prop where
  length : code.length = 6
  digits : ∀ c ∈ code.toList, Text.isHexDigit c = true

theorem IsNodeCode.allLiteral {code : String} (h : IsNodeCode code) : Shell.AllLiteral code :=
  fun c hc => Shell.isLiteral_of_isHexDigit (h.digits c hc)

theorem Target.isNodeCode_code (t : Target) : IsNodeCode t.code where
  length := t.length_code
  digits c hc := by
    rcases Target.lowerCase_of_mem_code hc with hdigit | hletter
    · exact Text.isHexDigit_iff.mpr (.inl hdigit)
    · exact Text.isHexDigit_iff.mpr (.inr (.inl hletter))

theorem Stage.isNodeCode_frame {s : Stage}
    (hself : IsNodeCode s.session.identities.self.targetCode) (direction : Direction)
    (opcode : Opcode) :
    IsNodeCode (s.frame direction opcode).sourceNode ∧
      IsNodeCode (s.frame direction opcode).destinationNode := by
  have htarget := s.session.identities.target.isNodeCode_code
  cases direction <;> cases opcode <;>
    first | exact ⟨hself, htarget⟩ | exact ⟨htarget, hself⟩

namespace Generator

/-- The shell reads two commands.  One changes the directory; the other one is the call, the
words of which are its options and twelve macros, with what it prints thrown away.  The
macros are those of the frame with their values and the payload in double quotes, and the
frame with its lengths is read off them. -/
def ReadAsMeant (g : Generator) : Prop :=
  ∃ change call operands,
    Shell.parse g.script = .ok (.sequence (.simple change) (.simple call)) ∧
    change.Reads ["cd", "/tmp"] [] ∧
    call.Reads
      (["sudo", g.program, "-p", "-o", g.device, "-i", g.template, "-n", Text.decimal g.count] ++
        (g.interval.elim [] fun d => ["-t", Text.decimal d.millis ++ "ms"]) ++
        operands.flatMap (["-D", ·]))
      [(1, .write, "/dev/null")] ∧
    operands = g.frame.defines.map (fun (name, value) => name ++ "=" ++ value) ++
      ["PAYLOAD=\"" ++ g.frame.opcode.text ++ "\""] ∧
    operands.length = 12 ∧
    Frame.ofOperands? operands =
      some (g.frame, g.frame.opcode.totalLength, g.frame.opcode.nocLength)

theorem readAsMeant_of_isNodeCode {g : Generator} (hprogram : Shell.IsPlain g.program)
    (hdevice : Shell.IsPlain g.device) (htemplate : Shell.IsPlain g.template)
    (hsource : IsNodeCode g.frame.sourceNode) (hdestination : IsNodeCode g.frame.destinationNode) :
    g.ReadAsMeant := by
  obtain ⟨change, call, hparse, hchange, hcall⟩ :=
    parse_script hprogram hdevice htemplate hsource.allLiteral hdestination.allLiteral
  have hpause : pauseWords g.interval =
      g.interval.elim [] fun d => ["-t", Text.decimal d.millis ++ "ms"] := by
    cases g.interval <;> rfl
  refine ⟨change, call, g.frame.operands, hparse, hchange, ?_, rfl, rfl,
    Frame.ofOperands?_operands g.frame⟩
  rw [← hpause]
  exact hcall

/-- A call of the frame generator gets through the shell as it is meant, whatever the frame,
the number of copies and the pause, if program, device and template are plain words and the
codes of the nodes are six hexadecimal digits.  So does the call for any direction and kind
of frame in a session whose local node has such a code. -/
theorem script_readAsMeant (g : Generator) (hprogram : Shell.IsPlain g.program)
    (hdevice : Shell.IsPlain g.device) (htemplate : Shell.IsPlain g.template) :
    (IsNodeCode g.frame.sourceNode → IsNodeCode g.frame.destinationNode → g.ReadAsMeant) ∧
    ∀ (s : Stage) (direction : Direction) (opcode : Opcode),
      IsNodeCode s.session.identities.self.targetCode →
        { g with frame := s.frame direction opcode }.ReadAsMeant := by
  refine ⟨readAsMeant_of_isNodeCode hprogram hdevice htemplate, fun s direction opcode hself => ?_⟩
  obtain ⟨hsource, hdestination⟩ := Stage.isNodeCode_frame hself direction opcode
  exact readAsMeant_of_isNodeCode hprogram hdevice htemplate hsource hdestination

/-- The usual call for a data frame, with a payload full of spaces. -/
theorem script_readAsMeant_payload :
    let f : Frame :=
      { destination := .ofLow ⟨0, 0, 0x0a⟩, source := .ofLow ⟨0, 0, 1⟩, sourceNode := "000001"
        destinationNode := "00000a", opcode := .payload, channel := ⟨1, by decide⟩ }
    let g : Generator := .ofFrame "trafgen" "vleth" "/mnt/mac/tests/ttp_common.cfg" f
    Shell.IsPlain g.program ∧ Shell.IsPlain g.device ∧ Shell.IsPlain g.template ∧
      IsNodeCode f.sourceNode ∧ IsNodeCode f.destinationNode ∧ g.ReadAsMeant := by
  intro f g
  have hprogram : Shell.IsPlain g.program := by decide
  have hdevice : Shell.IsPlain g.device := by decide
  have htemplate : Shell.IsPlain g.template := by decide
  have hsource : IsNodeCode f.sourceNode := ⟨by decide, List.all_eq_true.mp (by decide)⟩
  have hdestination : IsNodeCode f.destinationNode := ⟨by decide, List.all_eq_true.mp (by decide)⟩
  exact ⟨hprogram, hdevice, htemplate, hsource, hdestination,
    (script_readAsMeant g hprogram hdevice htemplate).1 hsource hdestination⟩

end Generator

end TtpConformance
