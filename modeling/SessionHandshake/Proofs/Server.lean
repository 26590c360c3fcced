import SessionHandshake.Proofs.Numeral
import SessionHandshake.Proofs.Percent
import SessionHandshake.Proofs.Splitting
import SessionHandshake.Transport.Address

namespace SessionHandshake

/-!
# Servers

The address of a server is a web scheme and a host, perhaps with a port.  Every
such host has a usual form, which differs from it at most in the case of the
letters of a name, and can be asked.
-/

namespace Address

/-- A character that stands for itself in the name of a host. -/
def isHostPoint (point : CodePoint) : Bool :=
  Percent.isUnreserved point || isDelimiter point

/-- What may be written between a scheme and a path, and what is sent of it. -/
structure HostPointFacts (point : CodePoint) : Prop where
  isAscii : point.value < 128
  isAddressPoint : Percent.isAddressPoint point = true
  notMark : point.isOneOf "[]:/?#@%\\" = false
  notForbidden : Host.isForbidden point = false

theorem hostPointFacts {point : CodePoint} (isPoint : isHostPoint point = true) :
    HostPointFacts point := by
  have isAscii : point.value < 128 := by
    rcases Bool.or_eq_true_iff.mp isPoint with unreserved | isDelimiter
    · exact Percent.isUnreserved_value_lt unreserved
    · exact Percent.isOneOf_value_lt (by decide) isDelimiter
  have checked :
      ∀ number : Fin 128,
        isHostPoint (CodePoint.ofNat number) = true →
          Percent.isAddressPoint (CodePoint.ofNat number) = true ∧
            (CodePoint.ofNat number).isOneOf "[]:/?#@%\\" = false ∧
            Host.isForbidden (CodePoint.ofNat number) = false := by
    decide +kernel
  obtain ⟨isAddressPoint, notMark, notForbidden⟩ :=
    CodePoint.forall_ascii
      (fun point =>
        isHostPoint point = true →
          Percent.isAddressPoint point = true ∧ point.isOneOf "[]:/?#@%\\" = false ∧
            Host.isForbidden point = false)
      checked isAscii isPoint
  exact ⟨isAscii, isAddressPoint, notMark, notForbidden⟩

/-- The address of a server: a web scheme, a host and perhaps a port. -/
structure Server where
  isSecure : Bool
  host : Text
  port : Option Nat
  hasHost : host ≠ []
  hostPoints : ∀ point ∈ host, isHostPoint point = true
  isAsked : host.startsWith "*" = false ∧ host.startsWith "." = false
  portBound : ∀ number ∈ port, 0 < number ∧ number ≤ greatestPort

namespace Server

theorem portBound_none : ∀ number ∈ (none : Option Nat), 0 < number ∧ number ≤ greatestPort := by
  intro number isPort
  cases isPort

variable (server : Server)

/-- The scheme of the address. -/
def scheme : Text :=
  if server.isSecure then "https" else "http"

/-- The port with the colon in front of it. -/
def portText : Text :=
  match server.port with
  | none =>
      []
  | some number =>
      (":" : Text) ++ Text.ofNat number

/-- The address as it is written. -/
def text : Text :=
  server.scheme ++ ("://" : Text) ++ server.host ++ server.portText

/-- The host as requests name it: numbers as they are, and names in lower case. -/
def usualHost : Text :=
  if Host.isNumeric server.host then server.host else server.host.asciiLowercase

/-- The address as requests write it. -/
def usualText : Text :=
  server.scheme ++ ("://" : Text) ++ server.usualHost ++ server.portText

end Server

/-! ### The host -/

theorem isHostPoint_lowerPoint {point : CodePoint} (isPoint : isHostPoint point = true) :
    isHostPoint (Text.lowerPoint point) = true := by
  have checked :
      ∀ number : Fin 128,
        isHostPoint (CodePoint.ofNat number) = true →
          isHostPoint (Text.lowerPoint (CodePoint.ofNat number)) = true := by
    decide +kernel
  exact CodePoint.forall_ascii
    (fun point => isHostPoint point = true → isHostPoint (Text.lowerPoint point) = true)
    checked (hostPointFacts isPoint).isAscii isPoint

theorem ne_of_not_isOneOf {point mark : CodePoint} {candidates : String}
    (isOther : point.isOneOf candidates = false)
    (isCandidate : mark ∈ Text.ofString candidates) :
    point ≠ mark := by
  rintro rfl
  exact CodePoint.isOneOf_eq_false_iff.mp isOther isCandidate

/-- None of the marks that end a host or stand around it is in the name of a host. -/
theorem notMem_of_hostPoints
    {host : Text}
    (hostPoints : ∀ point ∈ host, isHostPoint point = true)
    {mark : CodePoint}
    (isMark : mark ∈ Text.ofString "[]:/?#@%\\") :
    mark ∉ host :=
  fun member => ne_of_not_isOneOf (hostPointFacts (hostPoints _ member)).notMark isMark rfl

theorem isAscii_of_hostPoints {host : Text}
    (hostPoints : ∀ point ∈ host, isHostPoint point = true) :
    DomainLabel.isAscii host = true :=
  List.all_eq_true.mpr fun point member =>
    decide_eq_true (hostPointFacts (hostPoints point member)).isAscii

theorem usualLabel_of_hostPoints {label : Text}
    (hostPoints : ∀ point ∈ label, isHostPoint point = true) :
    Host.usualLabel label = .ok (label.map Text.lowerPoint) := by
  have lowerPoints : ∀ point ∈ label.map Text.lowerPoint, isHostPoint point = true := by
    intro point member
    obtain ⟨original, isOriginal, rfl⟩ := List.mem_map.mp member
    exact isHostPoint_lowerPoint (hostPoints original isOriginal)
  rw [Host.usualLabel, if_pos (isAscii_of_hostPoints hostPoints), Text.asciiLowercase_eq_map,
    Percent.upperEscapes_of_notMem (notMem_of_hostPoints lowerPoints (by decide))]

theorem mapM_usualLabel {labels : List Text}
    (hostPoints : ∀ label ∈ labels, ∀ point ∈ label, isHostPoint point = true) :
    labels.mapM Host.usualLabel = .ok (labels.map (List.map Text.lowerPoint)) := by
  induction labels with
  | nil =>
      rfl
  | cons label rest inductionHypothesis =>
      rw [List.mapM_cons, usualLabel_of_hostPoints (hostPoints label List.mem_cons_self),
        inductionHypothesis fun other member =>
          hostPoints other (List.mem_cons_of_mem label member)]
      rfl

namespace Server

variable (server : Server)

theorem exists_first : ∃ first rest, server.host = first :: rest ∧ isHostPoint first = true := by
  obtain ⟨first, rest, split⟩ := List.exists_cons_of_ne_nil server.hasHost
  exact ⟨first, rest, split, server.hostPoints first (by rw [split]; exact List.mem_cons_self)⟩

theorem usualHost_points : ∀ point ∈ server.usualHost, isHostPoint point = true := by
  rw [usualHost]
  split
  · exact server.hostPoints
  · intro point member
    obtain ⟨original, isOriginal, rfl⟩ := List.mem_map.mp member
    exact isHostPoint_lowerPoint (server.hostPoints original isOriginal)

theorem not_startsWith_bracket : server.host.startsWith "[" = false := by
  obtain ⟨first, rest, split, isPoint⟩ := server.exists_first
  have notBracket : CodePoint.ofChar '[' ≠ first :=
    (ne_of_not_isOneOf (hostPointFacts isPoint).notMark (by decide)).symm
  have different : (CodePoint.ofChar '[' == first) = false := beq_eq_false_iff_ne.mpr notBracket
  rw [split]
  exact (congrArg (· && _) different).trans (Bool.false_and _)

/-- The host of a server has a usual form. -/
theorem usual_host : Host.usual server.host = .ok server.usualHost := by
  have noSign : Percent.sign ∉ server.host := notMem_of_hostPoints server.hostPoints (by decide)
  rw [Host.usual, server.not_startsWith_bracket]
  simp only [Bool.false_eq_true, if_false, Percent.decodeUnreserved_of_notMem _ noSign]
  rw [usualHost]
  split
  · rfl
  · rw [mapM_usualLabel fun label isLabel point member =>
      server.hostPoints point (Text.mem_of_mem_splitOn isLabel point member)]
    exact congrArg Except.ok (Text.joined_map_splitOn (by decide) server.host)

/-- The host in its usual form can be asked. -/
theorem askedHost_usualHost (url : Text) :
    askedHost url server.usualHost = .ok server.usualHost := by
  obtain ⟨first, rest, split, isPoint⟩ := server.exists_first
  have lowered : ∃ usualFirst usualRest, server.usualHost = usualFirst :: usualRest ∧
      (usualFirst = first ∨ usualFirst = Text.lowerPoint first) := by
    rw [usualHost]
    split
    · exact ⟨first, rest, split, .inl rfl⟩
    · exact ⟨_, _, by rw [split]; rfl, .inr rfl⟩
  obtain ⟨usualFirst, usualRest, usualSplit, isLowered⟩ := lowered
  have unchanged :
      ∀ mark : Char, mark = '*' ∨ mark = '.' →
        CodePoint.ofChar mark ≠ first → CodePoint.ofChar mark ≠ usualFirst := by
    intro mark isMark different
    rcases isLowered with rfl | rfl
    · exact different
    · have checked :
          ∀ number : Fin 128,
            CodePoint.ofChar '*' = Text.lowerPoint (CodePoint.ofNat number) ∨
                CodePoint.ofChar '.' = Text.lowerPoint (CodePoint.ofNat number) →
              Text.lowerPoint (CodePoint.ofNat number) = CodePoint.ofNat number := by
        decide +kernel
      intro same
      have kept : Text.lowerPoint first = first :=
        CodePoint.forall_ascii
          (fun point =>
            CodePoint.ofChar '*' = Text.lowerPoint point ∨
                CodePoint.ofChar '.' = Text.lowerPoint point →
              Text.lowerPoint point = point)
          checked (hostPointFacts isPoint).isAscii (by rcases isMark with rfl | rfl <;> simp [same])
      exact different (same.trans kept)
  have startsWith_single :
      ∀ (mark : Char) (point : CodePoint) (others : Text),
        Text.startsWith (point :: others) [CodePoint.ofChar mark] = false ↔
          CodePoint.ofChar mark ≠ point := by
    intro mark point others
    rw [Text.startsWith, List.isPrefixOf_cons_cons, List.isPrefixOf_nil_left, Bool.and_true]
    exact beq_eq_false_iff_ne
  have isAsked := server.isAsked
  rw [split] at isAsked
  have notStar := unchanged '*' (.inl rfl) ((startsWith_single _ _ _).mp isAsked.1)
  have notPoint := unchanged '.' (.inr rfl) ((startsWith_single _ _ _).mp isAsked.2)
  have notStarted :
      server.usualHost.startsWith "*" = false ∧ server.usualHost.startsWith "." = false := by
    rw [usualSplit]
    exact ⟨(startsWith_single _ _ _).mpr notStar, (startsWith_single _ _ _).mpr notPoint⟩
  have notEmpty : server.usualHost.isEmpty = false := by
    rw [usualSplit]
    rfl
  rw [askedHost, notEmpty, isAscii_of_hostPoints server.usualHost_points, notStarted.1,
    notStarted.2]
  rfl

/-! ### The port -/

theorem mem_portText {point : CodePoint} (member : point ∈ server.portText) :
    point = CodePoint.ofChar ':' ∨ point.isDigit = true := by
  rw [portText] at member
  split at member
  · cases member
  · next number _ =>
      rcases List.mem_append.mp member with isColon | isDigit
      · exact .inl (List.mem_singleton.mp isColon)
      · exact .inr (Text.isDigit_ofNat number point isDigit)

/-- A host or a port, or the colon between them. -/
theorem mem_place {host : Text} (hostPoints : ∀ point ∈ host, isHostPoint point = true)
    {point : CodePoint} (member : point ∈ host ++ server.portText) :
    isHostPoint point = true ∨ point = CodePoint.ofChar ':' := by
  rcases List.mem_append.mp member with isHost | isPort
  · exact .inl (hostPoints point isHost)
  · rcases server.mem_portText isPort with isColon | isDigit
    · exact .inr isColon
    · refine .inl ?_
      rw [isHostPoint, Percent.isUnreserved, isDigit, Bool.or_true, Bool.true_or, Bool.true_or]

/-- No mark other than the colon is in a host with its port. -/
theorem notMem_place {host : Text} (hostPoints : ∀ point ∈ host, isHostPoint point = true)
    {mark : CodePoint} (isMark : mark ∈ Text.ofString "[]/?#@%\\") :
    mark ∉ host ++ server.portText := by
  intro member
  have checked :
      ∀ mark ∈ Text.ofString "[]/?#@%\\",
        isHostPoint mark = false ∧ mark ≠ CodePoint.ofChar ':' := by
    decide
  obtain ⟨notHost, notColon⟩ := checked mark isMark
  rcases server.mem_place hostPoints member with isHost | isColon
  · rw [notHost] at isHost
    cases isHost
  · exact notColon isColon

theorem port?_ofNat {number : Nat} (bound : number ≤ greatestPort) :
    port? (Text.ofNat number) = some (some number) := by
  have notEmpty : (Text.ofNat number).isEmpty = false :=
    List.isEmpty_eq_false_iff.mpr (Text.ofNat_ne_nil number)
  have areDigits : (Text.ofNat number).all CodePoint.isDigit = true :=
    List.all_eq_true.mpr (Text.isDigit_ofNat number)
  have short :
      ((Text.ofNat number).dropWhile fun point => point = CodePoint.ofChar '0').length ≤
        portDigits := by
    refine Nat.le_trans (List.dropWhile_sublist _).length_le (Text.length_ofNat_le 4 ?_)
    exact Nat.lt_of_le_of_lt bound (by decide)
  rw [port?, notEmpty, areDigits, decide_eq_true short, Text.decimalValue_ofNat]
  rfl

theorem hostAndPort?_place :
    hostAndPort? (server.host ++ server.portText) = some (server.host, server.port) := by
  have notColon : ∀ point ∈ server.host, decide (point ≠ CodePoint.ofChar ':') = true :=
    fun point member => decide_eq_true
      (ne_of_not_isOneOf (hostPointFacts (server.hostPoints point member)).notMark (by decide))
  have portEnds :
      server.portText.takeWhile (fun point => decide (point ≠ CodePoint.ofChar ':')) = [] := by
    rw [portText]
    cases server.port <;> rfl
  have named :
      (server.host ++ server.portText).takeWhile
        (fun point => decide (point ≠ CodePoint.ofChar ':')) = server.host := by
    rw [List.takeWhile_append_of_pos notColon, portEnds, List.append_nil]
  have isHostName : Host.isHostName server.host = true := by
    rw [Host.isHostName, Percent.isEscaped_of_notMem
      (notMem_of_hostPoints server.hostPoints (by decide)), Bool.and_true]
    have among :
        ∀ mark ∈ Text.ofString "[]:/?#", mark ∈ Text.ofString "[]:/?#@%\\" := by
      decide
    refine List.all_eq_true.mpr fun point member => ?_
    rw [CodePoint.isOneOf_eq_false_iff.mpr fun isOne =>
      notMem_of_hostPoints server.hostPoints (among point isOne) member]
    rfl
  have notBracket : (server.host ++ server.portText).startsWith "[" = false := by
    obtain ⟨first, rest, split, isPoint⟩ := server.exists_first
    have unbracketed := server.not_startsWith_bracket
    rw [split] at unbracketed ⊢
    exact unbracketed
  have divided :
      Host.split (server.host ++ server.portText) = some (server.host, server.portText) := by
    rw [Host.split, notBracket]
    simp only [Bool.false_eq_true, if_false, named, isHostName, if_true, List.drop_left]
  rw [hostAndPort?, divided]
  cases isPort : server.port with
  | none =>
      simp only [portText, isPort]
      rfl
  | some number =>
      have bound := (server.portBound number isPort).2
      have text : server.portText = CodePoint.ofChar ':' :: Text.ofNat number := by
        simp only [portText, isPort]
        rfl
      simp only [text, Option.bind_eq_bind, Option.bind_some, if_true, port?_ofNat bound]
      rfl

end Server

theorem controlEscape?_of_notMem {text : Text} (noSign : Percent.sign ∉ text) :
    Host.controlEscape? text = none := by
  induction text with
  | nil =>
      rfl
  | cons point rest inductionHypothesis =>
      have notSign : point ≠ Percent.sign := (List.ne_of_not_mem_cons noSign).symm
      have restNone := inductionHypothesis (List.not_mem_of_not_mem_cons noSign)
      match rest, restNone with
      | [], _ =>
          rfl
      | [_], _ =>
          rfl
      | first :: second :: others, restNone =>
          rw [Host.controlEscape?]
          simp only [notSign, false_and, if_false, restNone]
          split <;> rfl

theorem checkCharacters_of_hostPoints {host : Text}
    (hostPoints : ∀ point ∈ host, isHostPoint point = true) :
    Host.checkCharacters host = .ok () := by
  have noneForbidden : host.find? Host.isForbidden = none :=
    List.find?_eq_none.mpr fun point member => by
      rw [(hostPointFacts (hostPoints point member)).notForbidden]
      exact Bool.false_ne_true
  rw [Host.checkCharacters, noneForbidden,
    controlEscape?_of_notMem (notMem_of_hostPoints hostPoints (by decide))]

theorem splitUser_of_notMem {text : Text} (noUser : CodePoint.ofChar '@' ∉ text) :
    splitUser text = (none, text) := by
  have noneReversed : CodePoint.ofChar '@' ∉ text.reverse :=
    fun member => noUser (List.mem_reverse.mp member)
  rw [splitUser, Text.splitAtFirst_of_notMem noneReversed]

namespace Server

variable (server : Server)

theorem readAuthority_place :
    readAuthority (server.host ++ server.portText) =
      .ok { user := none, host := server.host, port := server.port } := by
  have noUser := splitUser_of_notMem (server.notMem_place server.hostPoints (by decide))
  rw [readAuthority, noUser]
  simp only [server.hostAndPort?_place, checkCharacters_of_hostPoints server.hostPoints]
  rfl

end Server

end Address

end SessionHandshake
