import SessionHandshake.Proofs.Query
import SessionHandshake.Proofs.Server

namespace SessionHandshake

/-!
# Addresses on servers

A path on a server is asked for as it is: only the host is brought into its usual
form, and a query is put behind the path unchanged.  Nothing keeps a request from
being sent to such an address.
-/

namespace Address

/-! ## Paths -/

/-- A path that is already in its usual form. -/
structure IsPlainPath (path : Text) : Prop where
  isRooted : ∃ rest, path = CodePoint.ofChar '/' :: rest
  points : ∀ point ∈ path, (Percent.isUnreserved point || point = CodePoint.ofChar '/') = true
  noDots : withoutDots path = path

namespace IsPlainPath

variable {path : Text} (isPlainPath : IsPlainPath path)
include isPlainPath

theorem isAddressPoint : ∀ point ∈ path, Percent.isAddressPoint point = true := by
  intro point member
  rcases Bool.or_eq_true_iff.mp (isPlainPath.points point member) with isUnreserved | isSlash
  · rw [Percent.isAddressPoint, isUnreserved]
    rfl
  · rw [of_decide_eq_true isSlash]
    decide

theorem isPathPoint : ∀ point ∈ path, point.value < 0x80 ∧ Address.isPathPoint point = true := by
  intro point member
  refine ⟨Percent.isAddressPoint_value_lt (isPlainPath.isAddressPoint point member), ?_⟩
  rcases Bool.or_eq_true_iff.mp (isPlainPath.points point member) with isUnreserved | isSlash
  · rw [Address.isPathPoint, isUserPoint, isUnreserved]
    rfl
  · rw [of_decide_eq_true isSlash]
    decide

theorem notMem {mark : CodePoint} (isMark : mark ∈ Text.ofString "?#%") : mark ∉ path := by
  intro member
  have checked :
      ∀ mark ∈ Text.ofString "?#%",
        (Percent.isUnreserved mark || mark = CodePoint.ofChar '/') = false := by
    decide
  have isPoint := isPlainPath.points mark member
  rw [checked mark isMark] at isPoint
  cases isPoint

end IsPlainPath

/-! ## The whole address -/

namespace Server

variable (server : Server)

theorem scheme_isScheme :
    server.scheme.head?.any CodePoint.isLetter = true ∧ server.scheme.all isSchemePoint = true ∧
      CodePoint.ofChar ':' ∉ server.scheme ∧ server.scheme.contains (CodePoint.ofChar '.') = false ∧
      server.scheme.asciiLowercase = server.scheme ∧ isWebScheme server.scheme = true := by
  rw [scheme]
  cases server.isSecure <;> decide

end Server

theorem splitScheme_append
    {scheme : Text}
    (isScheme : (scheme.head?.any CodePoint.isLetter && scheme.all isSchemePoint) = true)
    (noColon : CodePoint.ofChar ':' ∉ scheme)
    (rest : Text) :
    splitScheme (scheme ++ CodePoint.ofChar ':' :: rest) = (some scheme, rest) := by
  rw [splitScheme, Text.splitAtFirst_append noColon]
  simp only [isScheme, if_true]

namespace Server

variable (server : Server)

theorem splitScheme_text (rest : Text) :
    splitScheme (server.scheme ++ CodePoint.ofChar ':' :: rest) = (some server.scheme, rest) := by
  obtain ⟨hasLetter, arePoints, noColon, _⟩ := server.scheme_isScheme
  exact splitScheme_append (by rw [hasLetter, arePoints]; rfl) noColon rest

theorem text_append (path : Text) :
    server.text ++ path =
      server.scheme ++ CodePoint.ofChar ':' :: CodePoint.ofChar '/' :: CodePoint.ofChar '/' ::
        (server.host ++ server.portText ++ path) := by
  rw [text, List.append_assoc, List.append_assoc, List.append_assoc, List.append_assoc]
  rfl

/-- An end of the place where a host stands. -/
theorem splitAuthority_append
    {place path : Text}
    (noEnd : ∀ point ∈ place, point.isOneOf "\\/?#" = false)
    (isRooted : ∃ rest, path = CodePoint.ofChar '/' :: rest) :
    splitAuthority (CodePoint.ofChar '/' :: CodePoint.ofChar '/' :: (place ++ path)) =
      (some place, path) := by
  obtain ⟨rest, rfl⟩ := isRooted
  have dropped :
      Text.dropPrefix?
          (CodePoint.ofChar '/' :: CodePoint.ofChar '/' ::
            (place ++ CodePoint.ofChar '/' :: rest)) "//" =
        some (place ++ CodePoint.ofChar '/' :: rest) :=
    rfl
  have inside : ∀ point ∈ place, (!point.isOneOf "\\/?#") = true := by
    intro point member
    rw [noEnd point member]
    rfl
  have stops :
      (CodePoint.ofChar '/' :: rest).takeWhile (fun point => !point.isOneOf "\\/?#") = [] :=
    List.takeWhile_cons_of_neg (by decide)
  have remains :
      (CodePoint.ofChar '/' :: rest).dropWhile (fun point => !point.isOneOf "\\/?#") =
        CodePoint.ofChar '/' :: rest :=
    List.dropWhile_cons_of_neg (by decide)
  rw [splitAuthority, dropped]
  simp only [List.takeWhile_append_of_pos inside, List.dropWhile_append_of_pos inside, stops,
    remains, List.append_nil]

theorem place_noEnd : ∀ point ∈ server.host ++ server.portText, point.isOneOf "\\/?#" = false := by
  have among : ∀ mark ∈ Text.ofString "\\/?#", mark ∈ Text.ofString "[]/?#@%\\" := by decide
  exact fun point member => CodePoint.isOneOf_eq_false_iff.mpr fun isEnd =>
    server.notMem_place server.hostPoints (among point isEnd) member

/-- The parts of an address on a server. -/
theorem ofText_text {path : Text} (isPlainPath : IsPlainPath path) :
    ofText (server.text ++ path) = {
      scheme := some server.scheme
      authority := some (server.host ++ server.portText)
      path := path
      query := none
      fragment := none } := by
  obtain ⟨_, _, _, noPoint, lowered, _⟩ := server.scheme_isScheme
  have split := server.splitScheme_text
    (CodePoint.ofChar '/' :: CodePoint.ofChar '/' :: (server.host ++ server.portText ++ path))
  have isSchemed : hasScheme (server.text ++ path) = true := by
    rw [hasScheme, text_append, split]
    simp only [noPoint, Bool.not_false, Bool.or_true]
  rw [ofText, if_pos isSchemed]
  simp only [text_append, split, splitAuthority_append server.place_noEnd isPlainPath.isRooted,
    Text.splitAtFirst_of_notMem (isPlainPath.notMem (by decide) : CodePoint.ofChar '#' ∉ path),
    Text.splitAtFirst_of_notMem (isPlainPath.notMem (by decide) : CodePoint.ofChar '?' ∉ path),
    Option.map_some, lowered]

theorem usualPlace_points :
    ∀ point ∈ server.usualHost ++ server.portText, Percent.isAddressPoint point = true := by
  intro point member
  rcases server.mem_place server.usualHost_points member with isHost | isColon
  · exact (hostPointFacts isHost).isAddressPoint
  · rw [isColon]
    decide

theorem scheme_points : ∀ point ∈ server.scheme, Percent.isAddressPoint point = true := by
  rw [scheme]
  cases server.isSecure <;> decide

/-- The address of a server is in its usual form once its host is. -/
theorem isUsual_usualText : Percent.IsUsual server.usualText := by
  have mark : Percent.IsUsual ("://" : Text) := .of_points (by decide)
  have place := Percent.IsUsual.of_points server.usualPlace_points
  rw [usualText, List.append_assoc]
  exact ((Percent.IsUsual.of_points server.scheme_points).append mark).append place

theorem isUsual_marked {query : Text} (isUsual : Percent.IsUsual query) :
    Percent.IsUsual (marked "?" query) := by
  rw [marked]
  split
  · exact .nil
  · exact .point (by decide) isUsual

theorem any_isSurrogate_of_isUsual {address : Text} (isUsual : Percent.IsUsual address) :
    address.any CodePoint.isSurrogate = false := by
  have areAscii : ∀ point ∈ address, point.value < 0x80 := by
    induction isUsual with
    | nil =>
        exact fun point member => nomatch member
    | point isPoint _ inductionHypothesis =>
        intro point member
        rcases List.mem_cons.mp member with rfl | isRest
        · exact Percent.isAddressPoint_value_lt isPoint
        · exact inductionHypothesis point isRest
    | @escape byte _ _ _ inductionHypothesis =>
        intro point member
        rcases List.mem_append.mp member with isEscape | isRest
        · rcases Query.mem_escape isEscape with rfl | isUnreserved
          · decide
          · exact Percent.isUnreserved_value_lt isUnreserved
        · exact inductionHypothesis point isRest
  refine List.any_eq_false.mpr fun point member isSurrogate => ?_
  have isScalar : point.IsScalar :=
    CodePoint.isScalar_iff.mpr (.inl (Nat.lt_trans (areAscii point member) (by decide)))
  rw [isScalar] at isSurrogate
  cases isSurrogate

/-- The parts of an address on a server put together again. -/
theorem assembled_usual {path : Text} (isPlainPath : IsPlainPath path) (query : Text) :
    assembled server.scheme { user := none, host := server.usualHost, port := server.port } path
        query [] =
      server.usualText ++ path ++ marked "?" query := by
  obtain ⟨rest, isRooted⟩ := isPlainPath.isRooted
  have startsRooted : path.startsWith "/" = true := by
    rw [isRooted]
    rfl
  have written :
      Authority.written { user := none, host := server.usualHost, port := server.port } =
        server.usualHost ++ server.portText := by
    rw [Authority.written, portText]
    cases isPort : server.port with
    | none =>
        rfl
    | some number =>
        have positive := (server.portBound number isPort).1
        obtain ⟨number, rfl⟩ := Nat.exists_eq_add_one_of_ne_zero (Nat.ne_of_gt positive)
        rfl
  have noFragment : marked "#" [] = [] := rfl
  rw [assembled, written, startsRooted, if_pos rfl, usualText, noFragment, List.append_nil]
  simp only [List.append_assoc]

/-- The host that requests to a server ask. -/
theorem hostOf_text {path : Text} (isPlainPath : IsPlainPath path) :
    hostOf (server.text ++ path) (ofText (server.text ++ path)) =
      .ok (some { user := none, host := server.usualHost, port := server.port }) := by
  obtain ⟨_, _, _, _, _, isWeb⟩ := server.scheme_isScheme
  have someWeb : Option.all isWebScheme (some server.scheme) = true := isWeb
  have portFits : server.port.any (fun number => greatestPort < number) = false := by
    cases isPort : server.port with
    | none =>
        rfl
    | some number =>
        exact decide_eq_false (Nat.not_lt.mpr (server.portBound number isPort).2)
  have usual :
      Authority.usual { user := none, host := server.host, port := server.port } =
        .ok { user := none, host := server.usualHost, port := server.port } := by
    rw [Authority.usual, server.usual_host]
    rfl
  obtain ⟨first, rest, split, _⟩ := server.exists_first
  have authority :
      (ofText (server.text ++ path)).authorityOf (server.text ++ path)
          (server.host ++ server.portText) =
        .ok { user := none, host := server.usualHost, port := server.port } := by
    rw [authorityOf, server.readAuthority_place, server.ofText_text isPlainPath]
    simp only [orUnparsable, ok_bind, portFits, Bool.false_eq_true, if_false, someWeb, if_true,
      usual]
  have read :
      hostOf (server.text ++ path) (ofText (server.text ++ path)) =
        ((ofText (server.text ++ path)).authorityOf (server.text ++ path)
          (server.host ++ server.portText)).map some := by
    rw [hostOf, server.ofText_text isPlainPath, split]
    rfl
  rw [read, authority]
  rfl

/-- A path on a server is prepared with a query behind it. -/
theorem prepare_text
    {path : Text}
    (isPlainPath : IsPlainPath path)
    {parameters : Value}
    {query : Text}
    (written : Query.ofParameters false parameters = .ok query)
    (isUsual : Percent.IsUsual query) :
    prepare (server.text ++ path) parameters =
      .ok (server.usualText ++ path ++ marked "?" query) := by
  obtain ⟨_, _, _, _, _, isWeb⟩ := server.scheme_isScheme
  have visible : (server.text ++ path).dropWhile CodePoint.isSpace = server.text ++ path := by
    rw [text_append, scheme]
    cases server.isSecure <;> rfl
  have notForeign : isForeign (server.text ++ path) = false := by
    rw [isForeign, text_append, scheme]
    cases server.isSecure <;> exact Bool.and_false _
  have pathKept : Percent.encodePart Address.isPathPoint path = path :=
    Percent.encodePart_of_accepted (isPlainPath.notMem (by decide)) isPlainPath.isPathPoint
  have nothing : Percent.encodePart isQueryPoint [] = [] := rfl
  have isUsualAddress : Percent.IsUsual (server.usualText ++ path ++ marked "?" query) :=
    (server.isUsual_usualText.append (.of_points isPlainPath.isAddressPoint)).append
      (isUsual_marked isUsual)
  have completed :
      complete (ofText (server.text ++ path)) server.scheme
          { user := none, host := server.usualHost, port := server.port } query =
        .ok (server.usualText ++ path ++ marked "?" query) := by
    rw [complete, server.ofText_text isPlainPath]
    simp only [isWeb, if_true, Option.getD_none, isPlainPath.noDots, pathKept, nothing,
      extendedQuery, List.isEmpty_nil, server.assembled_usual isPlainPath,
      any_isSurrogate_of_isUsual isUsualAddress, Bool.false_eq_true, if_false,
      isUsualAddress.normalizeAddress]
  have prepared :
      prepareHost (server.text ++ path) (ofText (server.text ++ path)) server.scheme
          { user := none, host := server.usualHost, port := server.port } parameters =
        .ok (server.usualText ++ path ++ marked "?" query) := by
    have noQuery : (ofText (server.text ++ path)).query = none := by
      rw [server.ofText_text isPlainPath]
    have withoutQuery : (!((none : Option Text).getD []).isEmpty) = false := rfl
    rw [prepareHost, server.askedHost_usualHost, ok_bind]
    simp only [noQuery, withoutQuery, written, ok_bind, completed]
  have hasScheme : (ofText (server.text ++ path)).scheme = some server.scheme := by
    rw [server.ofText_text isPlainPath]
  rw [prepare, visible, notForeign]
  simp only [Bool.false_eq_true, if_false, prepareWeb, server.hostOf_text isPlainPath, ok_bind,
    hasScheme, prepared]

end Server

/-! ## Sending -/

theorem isSchemePoint_facts {point : CodePoint} (isPoint : isSchemePoint point = true) :
    isInvisible point = false ∧ 0x20 < point.value := by
  simp only [isSchemePoint, CodePoint.isLetter, CodePoint.isDigit, Bool.or_eq_true] at isPoint
  have isAscii : point.value < 128 := by
    rcases isPoint with ((isLower | isUpper) | isDigit) | isMark
    · exact Nat.lt_of_le_of_lt (CodePoint.mem_range_of_isBetween isLower).2 (by decide)
    · exact Nat.lt_of_le_of_lt (CodePoint.mem_range_of_isBetween isUpper).2 (by decide)
    · exact Nat.lt_of_le_of_lt (CodePoint.mem_range_of_isBetween isDigit).2 (by decide)
    · exact Percent.isOneOf_value_lt (by decide) isMark
  have checked :
      ∀ number : Fin 128,
        isSchemePoint (CodePoint.ofNat number) = true →
          isInvisible (CodePoint.ofNat number) = false ∧
            0x20 < (CodePoint.ofNat number).value := by
    decide +kernel
  exact CodePoint.forall_ascii
    (fun point =>
      isSchemePoint point = true → isInvisible point = false ∧ 0x20 < point.value)
    checked isAscii (by simpa only [isSchemePoint, CodePoint.isLetter, CodePoint.isDigit,
      Bool.or_eq_true] using isPoint)

/-- The host of an address that is sent depends on nothing behind the slash after it. -/
theorem authorityIn_append
    {scheme : Text}
    (isScheme : (scheme.head?.any CodePoint.isLetter && scheme.all isSchemePoint) = true)
    (front tail : Text) :
    authorityIn
        (scheme ++ CodePoint.ofChar ':' :: CodePoint.ofChar '/' :: CodePoint.ofChar '/' ::
          (front ++ CodePoint.ofChar '/' :: tail)) =
      (front.filter fun point => !isInvisible point).takeWhile fun point =>
        !point.isOneOf "/?#" := by
  obtain ⟨hasLetter, arePoints⟩ := Bool.and_eq_true_iff.mp isScheme
  have schemePoints : ∀ point ∈ scheme, isSchemePoint point = true := List.all_eq_true.mp arePoints
  have noColon : CodePoint.ofChar ':' ∉ scheme := fun member =>
    absurd (schemePoints _ member) (by decide)
  have kept : scheme.filter (fun point => !isInvisible point) = scheme :=
    List.filter_eq_self.mpr fun point member => by
      rw [(isSchemePoint_facts (schemePoints point member)).1]
      rfl
  have undropped :
      ∀ rest : Text,
        (scheme ++ rest).dropWhile (fun point => point.value ≤ 0x20) = scheme ++ rest := by
    intro rest
    cases scheme with
    | nil =>
        cases hasLetter
    | cons first others =>
        have isHigh := (isSchemePoint_facts (schemePoints first List.mem_cons_self)).2
        refine List.dropWhile_cons_of_neg ?_
        rw [decide_eq_true_eq]
        omega
  have seen :
      visible
          (scheme ++ CodePoint.ofChar ':' :: CodePoint.ofChar '/' :: CodePoint.ofChar '/' ::
            (front ++ CodePoint.ofChar '/' :: tail)) =
        scheme ++ CodePoint.ofChar ':' :: CodePoint.ofChar '/' :: CodePoint.ofChar '/' ::
          (front.filter (fun point => !isInvisible point) ++
            CodePoint.ofChar '/' :: tail.filter fun point => !isInvisible point) := by
    rw [visible, undropped, List.filter_append, kept]
    simp only [List.filter_cons_of_pos (p := fun point => !isInvisible point)
        (a := CodePoint.ofChar ':') (by decide),
      List.filter_cons_of_pos (p := fun point => !isInvisible point)
        (a := CodePoint.ofChar '/') (by decide), List.filter_append]
  have dropped :
      ∀ rest : Text,
        Text.dropPrefix? (CodePoint.ofChar '/' :: CodePoint.ofChar '/' :: rest) "//" = some rest :=
    fun _ => rfl
  rw [authorityIn, seen, splitScheme_append isScheme noColon, dropped]
  exact Text.takeWhile_append_stop (by decide) _ _

namespace Server

variable (server : Server)

/-- A path on a server is an address to which a request is sent. -/
theorem checkSent_usualText
    {path : Text}
    (isPlainPath : IsPlainPath path)
    (query : Text) :
    checkSent (server.usualText ++ path ++ query) = .ok () := by
  obtain ⟨hasLetter, arePoints, noColon, _⟩ := server.scheme_isScheme
  obtain ⟨rest, isRooted⟩ := isPlainPath.isRooted
  have parts :
      server.usualText ++ path ++ query =
        server.scheme ++ CodePoint.ofChar ':' :: CodePoint.ofChar '/' :: CodePoint.ofChar '/' ::
          (server.usualHost ++ server.portText ++ CodePoint.ofChar '/' :: (rest ++ query)) := by
    rw [isRooted, usualText]
    simp only [List.append_assoc]
    rfl
  have placeSeen :
      ∀ point ∈ server.usualHost ++ server.portText,
        isInvisible point = false ∧ point.isOneOf "/?#" = false ∧ point.value < 0x80 := by
    intro point member
    have isAscii := Percent.isAddressPoint_value_lt (server.usualPlace_points point member)
    refine ⟨?_, ?_, isAscii⟩
    · have checked :
          ∀ number : Fin 128,
            Percent.isAddressPoint (CodePoint.ofNat number) = true →
              isInvisible (CodePoint.ofNat number) = false := by
        decide +kernel
      exact CodePoint.forall_ascii
        (fun point => Percent.isAddressPoint point = true → isInvisible point = false)
        checked isAscii (server.usualPlace_points point member)
    · have among : ∀ mark ∈ Text.ofString "/?#", mark ∈ Text.ofString "[]/?#@%\\" := by decide
      exact CodePoint.isOneOf_eq_false_iff.mpr fun isEnd =>
        server.notMem_place server.usualHost_points (among point isEnd) member
  have authority :
      authorityIn (server.usualText ++ path ++ query) = server.usualHost ++ server.portText := by
    have allVisible :
        (server.usualHost ++ server.portText).filter (fun point => !isInvisible point) =
          server.usualHost ++ server.portText :=
      List.filter_eq_self.mpr fun point member => by
        rw [(placeSeen point member).1]
        rfl
    have noneEnds :
        ∀ point ∈ server.usualHost ++ server.portText, (!point.isOneOf "/?#") = true := by
      intro point member
      rw [(placeSeen point member).2.1]
      rfl
    have whole :
        (server.usualHost ++ server.portText ++ []).takeWhile (fun point => !point.isOneOf "/?#") =
          server.usualHost ++ server.portText ++ [] :=
      List.takeWhile_append_of_pos noneEnds
    rw [List.append_nil] at whole
    rw [parts, authorityIn_append (by rw [hasLetter, arePoints]; rfl), allVisible, whole]
  have noBrackets :
      (server.usualHost ++ server.portText).contains (CodePoint.ofChar '[') = false ∧
        (server.usualHost ++ server.portText).contains (CodePoint.ofChar ']') = false := by
    constructor
    · exact Bool.eq_false_iff.mpr fun found =>
        server.notMem_place server.usualHost_points (by decide) (List.contains_iff_mem.mp found)
    · exact Bool.eq_false_iff.mpr fun found =>
        server.notMem_place server.usualHost_points (by decide) (List.contains_iff_mem.mp found)
  have hidesNothing : Host.hidesMark (server.usualHost ++ server.portText) = false := by
    have allHigh : ∀ form ∈ Host.markedForms, 0x80 ≤ form := by decide
    refine List.any_eq_false.mpr fun point member isMarked => ?_
    have isAscii := (placeSeen point member).2.2
    have isHigh := allHigh point.value (List.contains_iff_mem.mp isMarked)
    omega
  have noUser := splitUser_of_notMem (server.notMem_place server.usualHost_points (by decide))
  have supported : isSupported (server.usualText ++ path ++ query) = true := by
    rw [parts, isSupported, scheme]
    cases server.isSecure
    · exact Bool.or_eq_true_iff.mpr (.inr rfl)
    · exact Bool.or_eq_true_iff.mpr (.inl rfl)
  rw [checkSent, authority]
  simp only [Host.hasSoundBrackets, noBrackets, hidesNothing, hasNarrowUser, noUser, supported,
    Bool.not_true, Bool.or_self, Bool.false_eq_true, if_false, if_true]

end Server

end Address

end SessionHandshake