import CheetahSignaling.Sip
import Mathlib.Data.List.Flatten
import Mathlib.Data.String.Basic

/-! The written form of a URI. What the parser accepts is written no longer than it was, and read
again unless the host opens a bracket that does not end it or a parameter is the bare `=`. -/
namespace CheetahSignaling.SipUri

open Str Outcomes
open String (toList_ofList utf8Len utf8Len_append utf8Len_cons)
open List hiding after toString

def schemeText : Scheme → List Char
  | .sip => "sip".toList
  | .sips => "sips".toList

def userinfoText : Option String → Option String → List Char
  | none, _ => []
  | some user, none => user.toList ++ ['@']
  | some user, some password => user.toList ++ ':' :: (password.toList ++ ['@'])

def portText (port : Option Nat) : List Char := port.elim [] fun port => ':' :: (toString port).toList

def parameterText : String × Option String → List Char
  | (key,none) => key.toList
  | (key,some value) => key.toList ++ '=' :: value.toList

def addressText (host : String) (port : Option Nat) (parameters : List (String × Option String)) : List Char :=
  host.toList ++ portText port ++ (parameters.map parameterText).flatMap (';' :: ·)

theorem encode_toList (uri : SipUri) :
    uri.encode.toList = schemeText uri.scheme ++ ':' :: (userinfoText uri.user uri.password ++
      addressText uri.host uri.port uri.parameters) := by
  obtain ⟨scheme,user,password,host,port,parameters⟩ := uri
  have written : (String.join (parameters.map encodeParameter)).toList = (parameters.map parameterText).flatMap (';' :: ·) := by
    rw [String.toList_join,flatMap_map,flatMap_map]
    refine congrArg (List.flatMap · parameters) (funext ?_)
    rintro ⟨key,_ | value⟩ <;> simp [encodeParameter,parameterText]
  cases scheme <;> cases user <;> cases password <;> cases port <;>
    simp [encode,schemeText,userinfoText,addressText,portText,written]

section Userinfo

variable {user password : Option String}

theorem splitUserinfo_bare (clear : '@' ∉ address) : splitUserinfo address = (none,address) := by
  rw [splitUserinfo,rsplitOnce_eq_none.mpr clear]

theorem splitUserinfo_written (clear : '@' ∉ address) (filled : info ≠ []) :
    splitUserinfo (info ++ '@' :: address) = (some info,address) := by
  rw [splitUserinfo,rsplitOnce_char clear]
  simp [if_neg filled]

theorem userinfoText_eq (parsed : parseUserinfo (some info) = .ok (user,password)) :
    userinfoText user password = info ++ ['@'] := by
  cases cut : splitOnce [':'] info with
  | none =>
    simp only [parseUserinfo,cut] at parsed
    cases parsed
    simp [userinfoText]
  | some halves =>
    simp only [parseUserinfo,cut] at parsed
    obtain ⟨-,same⟩ := passed_of_ok parsed
    cases same
    simp [userinfoText,splitOnce_eq cut]

theorem userinfo_again (parsed : parseUserinfo (splitUserinfo rest).1 = .ok (user,password)) :
    '@' ∉ (splitUserinfo rest).2 ∧
    utf8Len (userinfoText user password) + utf8Len (splitUserinfo rest).2 ≤ utf8Len rest ∧
    ∀ address, '@' ∉ address → parseUserinfo (splitUserinfo (userinfoText user password ++ address)).1 = .ok (user,password) ∧
      (splitUserinfo (userinfoText user password ++ address)).2 = address := by
  have absent (address : List Char) (clear : '@' ∉ address) :
    parseUserinfo (splitUserinfo (userinfoText none none ++ address)).1 =
      .ok (none,none) ∧ (splitUserinfo (userinfoText none none ++ address)).2 = address := by
    rw [userinfoText,nil_append,splitUserinfo_bare clear]
    exact ⟨rfl,rfl⟩
  cases cut : rsplitOnce '@' rest with
  | none =>
    rw [splitUserinfo_bare (rsplitOnce_eq_none.mp cut)] at parsed ⊢
    cases parsed
    exact ⟨rsplitOnce_eq_none.mp cut,by simp [userinfoText],absent⟩
  | some halves =>
    obtain ⟨info,behind⟩ := halves
    have clear := rsplitOnce_after cut
    have whole : rest = info ++ '@' :: behind := by rw [rsplitOnce_eq cut,append_assoc]; rfl
    by_cases blank : info = []
    · have split : splitUserinfo rest = (none,behind) := by simp [splitUserinfo,cut,if_pos blank]
      rw [split] at parsed ⊢
      cases parsed
      exact ⟨clear,by simp [userinfoText,whole]; omega,absent⟩
    rw [whole,splitUserinfo_written clear blank] at parsed ⊢
    rw [userinfoText_eq parsed]
    refine ⟨clear,by simp; omega,fun address clear => ?_⟩
    rw [append_assoc,singleton_append,splitUserinfo_written clear blank]
    exact ⟨parsed,rfl⟩

end Userinfo

section Parameters

variable {tokens : List (List Char)}

theorem parameter_again (clear : ';' ∉ token) :
    parseParameter (parameterText (parseParameter token)) = parseParameter token ∧ ';' ∉ parameterText (parseParameter token) ∧
      utf8Len (parameterText (parseParameter token)) ≤ utf8Len token := by
  cases cut : splitOnce ['='] token with
  | none =>
    have whole : parseParameter token = (String.ofList token,none) := by simp [parseParameter,cut]
    have text : parameterText (String.ofList token,none) = token := toList_ofList
    rw [whole,text]
    exact ⟨whole,clear,le_refl _⟩
  | some halves =>
    obtain ⟨key,value⟩ := halves
    have before := splitOnce_before cut
    have joined : token = key ++ '=' :: value := by rw [splitOnce_eq cut,append_assoc]; rfl
    by_cases blank : value = []
    · have short : parseParameter token = (String.ofList key,none) := by simp [parseParameter,cut,if_pos blank]
      have text : parameterText (String.ofList key,none) = key := toList_ofList
      have again : parseParameter key = (String.ofList key,none) := by
        simp [parseParameter,splitOnce_eq_none.mpr before]
      rw [short,text,joined]
      refine ⟨again,fun member => clear ?_,by simp⟩
      rw [joined]
      exact mem_append_left _ member
    have whole : parseParameter token = (String.ofList key,some (String.ofList value)) := by
      simp [parseParameter,cut,if_neg blank]
    have text : parameterText (String.ofList key,some (String.ofList value)) = token := by simp [parameterText,joined]
    rw [whole,text]
    exact ⟨whole,clear,le_refl _⟩

theorem splitParameters_clear (split : splitParameters address = (hostport,tokens)) :
    ';' ∉ hostport ∧ (∀ token ∈ tokens, ';' ∉ token) ∧ utf8Len hostport + utf8Len
    (tokens.flatMap (';' :: ·)) ≤ utf8Len address := by
  unfold splitParameters at split
  cases cut : splitOnce [';'] address with
  | none =>
    rw [cut] at split
    cases split
    exact ⟨splitOnce_eq_none.mp cut,nofun,by simp⟩
  | some halves =>
    obtain ⟨before,params⟩ := halves
    rw [cut] at split
    cases split
    refine ⟨splitOnce_before cut,fun token member => split_not_mem (mem_filter.mp member).1,?_⟩
    obtain ⟨first,rest,shape,joined,-⟩ := split_joins ';' params
    have whole : address = hostport ++ (first :: rest).flatMap (';' :: ·) := by
      rw [splitOnce_eq cut,joined,append_assoc]
      rfl
    have fewer : utf8Len ((((first :: rest).filter (· ≠ []))).flatMap (';' :: ·)) ≤ utf8Len
      ((first :: rest).flatMap (';' :: ·)) :=
      String.utf8Len_le_of_sublist (filter_sublist.flatMap _)
    rw [shape,whole,utf8Len_append]
    omega

theorem splitParameters_written (clear : ';' ∉ hostport) (tokensClear : ∀ token ∈ tokens, ';' ∉ token) :
    splitParameters (hostport ++ tokens.flatMap (';' :: ·)) = (hostport,tokens.filter (· ≠ [])) := by
  cases tokens with
  | nil =>
    rw [flatMap_nil,append_nil,splitParameters,splitOnce_eq_none.mpr clear]
    rfl
  | cons token tokens =>
    obtain ⟨next,others⟩ := forall_mem_cons.mp tokensClear
    rw [flatMap_cons,cons_append,splitParameters,splitOnce_char clear]
    simp [split_joined next others]

end Parameters

section Hostport

/-- A host that opens with a bracket ends with the first closing one. -/
def Closed (host : List Char) : Prop := host.head? = some '[' → ∃ inner, ']' ∉ inner ∧ host = inner ++ [']']

variable {s hostText host inner after : List Char} {port : Option Nat}

theorem foldl_digits_lt (all : ∀ c ∈ s, c.isDigit = true) (acc : Nat) :
    s.foldl (fun n c => 10 * n + (c.toNat - 48)) acc < (acc + 1) * 10 ^ s.length := by
  induction s generalizing acc with
  | nil => simp
  | cons c s ih =>
    obtain ⟨digit,rest⟩ := forall_mem_cons.mp all
    have range := isDigit_range.mp digit
    calc s.foldl (fun n c => 10 * n + (c.toNat - 48)) (10 * acc + (c.toNat - 48))
        < (10 * acc + (c.toNat - 48) + 1) * 10 ^ s.length := ih rest _
      _ ≤ ((acc + 1) * 10) * 10 ^ s.length := Nat.mul_le_mul_right _ (by omega)
      _ = (acc + 1) * 10 ^ (c :: s).length := by rw [length_cons,Nat.pow_succ,Nat.mul_assoc,Nat.mul_comm 10]

theorem utf8Len_digits (all : ∀ c ∈ s, c.isDigit = true) : utf8Len s = s.length := by
  induction s with
  | nil => rfl
  | cons c s ih =>
    obtain ⟨digit,rest⟩ := forall_mem_cons.mp all
    have one : c.utf8Size = 1 :=
      Char.utf8Size_eq_one_iff.mpr (UInt32.le_iff_toNat_le.mpr ((isDigit_range.mp digit).2.trans (by decide : 57 ≤ 127)))
    rw [utf8Len_cons,ih rest,one,length_cons]

theorem number_shorter (parsed : parseUnsigned bound s = some n) : utf8Len (toString n).toList ≤ utf8Len s := by
  simp only [parseUnsigned] at parsed
  have part : (if s.head? = some '+' then s.drop 1 else s) <:+ s := by
    split
    · exact drop_suffix 1 s
    · exact suffix_rfl
  generalize (if s.head? = some '+' then s.drop 1 else s) = digits at parsed part
  split_ifs at parsed with filled small
  cases parsed
  have all := all_eq_true.mp filled.2
  refine le_trans ?_ (String.utf8Len_le_of_suffix part)
  rw [utf8Len_digits (isDigit_number _),utf8Len_digits all,toList_number]
  refine (Nat.length_toDigits_le_iff (by decide) (length_pos_iff.mpr filled.1)).mpr ?_
  simpa using foldl_digits_lt all 0

theorem parsePort_ok (numbered : parsePort digits = .ok port) :
    (digits = none ∧ port = none) ∨ ∃ text n, digits = some text ∧ port = some n ∧ parseUnsigned (2 ^ 16) text = some n := by
  cases digits with
  | none =>
    cases numbered
    exact .inl ⟨rfl,rfl⟩
  | some text =>
    simp only [parsePort] at numbered
    cases number : parseUnsigned (2 ^ 16) text with
    | none =>
      rw [number] at numbered
      cases numbered
    | some n =>
      rw [number] at numbered
      cases numbered
      exact .inr ⟨text,n,rfl,rfl,number⟩

theorem portText_shorter (numbered : parsePort digits = .ok port) :
    utf8Len (portText port) ≤ utf8Len (digits.elim [] (':' :: ·)) := by
  rcases parsePort_ok numbered with ⟨rfl,rfl⟩ | ⟨text,n,rfl,rfl,number⟩
  · exact le_refl _
  · have := number_shorter number
    simp only [portText,Option.elim,utf8Len_cons]
    omega

theorem head_bracketed (opened : (inner ++ ']' :: after).head? = some '[') : (inner ++ [']']).head? = some '[' := by
  cases inner with
  | nil => cases opened
  | cons c inner => exact opened

theorem trim_bracketed (opened : (s ++ [']']).head? = some '[') : trim (s ++ [']']) = s ++ [']'] := by
  refine trim_of_ends ?_ ?_
  · rw [opened]
    exact fun c same => Option.some.inj same ▸ rfl
  · rw [List.getLast?_concat]
    exact fun c same => Option.some.inj same ▸ rfl

theorem parseHostport_ok (parsed : parseHostport s = .ok (hostText,digits)) :
    (∃ inner after, s.head? = some '[' ∧ ']' ∉ inner ∧ hostText = inner ++ [']'] ∧ s = hostText ++ after ∧
      digits.elim [] (':' :: ·) <+: after) ∨
    (s.head? ≠ some '[' ∧ s = hostText ++ digits.elim [] (':' :: ·) ∧ (digits = none → ':' ∉ s)) := by
  unfold parseHostport at parsed
  split at parsed
  · rename_i opened
    split at parsed
    · cases parsed
    · rename_i inner text cut
      cases parsed
      exact .inl ⟨inner,':' :: text,opened,splitOnce_before cut,rfl,splitOnce_eq cut,prefix_rfl⟩
    · rename_i inner after _ cut
      cases parsed
      exact .inl ⟨inner,after,opened,splitOnce_before cut,rfl,splitOnce_eq cut,List.nil_prefix⟩
  rename_i plain
  cases cut : rsplitOnce ':' s with
  | none =>
    rw [cut] at parsed
    cases parsed
    exact .inr ⟨plain,(append_nil _).symm,fun _ => rsplitOnce_eq_none.mp cut⟩
  | some halves =>
    rw [cut] at parsed
    cases parsed
    exact .inr ⟨plain,(rsplitOnce_eq cut).trans (append_assoc _ _ _),nofun⟩

theorem hostport_read (parsed : parseHostport s = .ok (hostText,digits)) (numbered : parsePort digits = .ok port) :
    utf8Len (trim hostText) + utf8Len (portText port) ≤ utf8Len s ∧
      (port = none → (trim hostText).head? ≠ some '[' → ':' ∉ trim hostText) := by
  have shorter := portText_shorter numbered
  have trimmed : utf8Len (trim hostText) ≤ utf8Len hostText := String.utf8Len_le_of_infix trim_infix
  have absent : port = none → digits = none := by
    rintro rfl
    rcases parsePort_ok numbered with ⟨rfl,-⟩ | ⟨_,_,-,some,-⟩
    · rfl
    · cases some
  rcases parseHostport_ok parsed with ⟨inner,after,opened,-,rfl,rfl,part⟩ | ⟨plain,rfl,colon⟩
  · have fits := String.utf8Len_le_of_prefix part
    rw [append_assoc] at opened
    have start := head_bracketed opened
    rw [utf8Len_append]
    refine ⟨by omega,fun _ plain => absurd ?_ plain⟩
    rw [trim_bracketed start,start]
  · rw [utf8Len_append]
    refine ⟨by omega,fun none _ member => colon (absent none) ?_⟩
    exact mem_append_left _ (mem_of_mem_trim member)

theorem parsePort_number (small : n < 2 ^ 16) : parsePort (some (toString n).toList) = .ok (some n) := by
  simp only [parsePort,parseUnsigned_number small]

theorem parseHostport_closed (opened : (inner ++ [']']).head? = some '[') (clear : ']' ∉ inner) (port : Option Nat) :
    parseHostport (inner ++ [']'] ++ portText port) = .ok (inner ++ [']'],port.map fun n => (toString n).toList) := by
  have start : (inner ++ ']' :: portText port).head? = some '[' := by
    cases inner with
    | nil => cases opened
    | cons c inner => exact opened
  rw [append_assoc,singleton_append,parseHostport,if_pos start,splitOnce_char clear]
  cases port <;> rfl

theorem parseHostport_plain (filled : host ≠ []) (unopened : host.head? ≠ some '[') (plain : port = none → ':' ∉ host) :
    parseHostport (host ++ portText port) = .ok (host,port.map fun n => (toString n).toList) := by
  have start : (host ++ portText port).head? ≠ some '[' := by
    cases host with
    | nil => exact absurd rfl filled
    | cons c host => exact unopened
  rw [parseHostport,if_neg start]
  cases port with
  | none =>
    have bare : host ++ portText none = host := append_nil host
    rw [bare,rsplitOnce_eq_none.mpr (plain rfl)]
    rfl
  | some n =>
    have clear : ':' ∉ (toString n).toList := fun member => absurd (isDigit_number n ':' member) (by decide)
    have cut : rsplitOnce ':' (host ++ portText (some n)) = some (host,(toString n).toList) := rsplitOnce_char clear
    rw [cut]
    rfl

theorem hostport_again (filled : host ≠ []) (trimmed : trim host = host) (small : ∀ n ∈ port, n < 2 ^ 16)
    (plain : port = none → host.head? ≠ some '[' → ':' ∉ host) :
    (∃ hostText digits, parseHostport (host ++ portText port) = .ok (hostText,digits) ∧ trim hostText = host ∧
      parsePort digits = .ok port) ↔ Closed host := by
  have numbered : parsePort (port.map fun n => (toString n).toList) = .ok port := by
    cases port with
    | none => rfl
    | some n => exact parsePort_number (small n rfl)
  constructor
  · rintro ⟨hostText,digits,parsed,same,-⟩ opened
    have start : (host ++ portText port).head? = some '[' := by rw [List.head?_append,opened]; rfl
    rcases parseHostport_ok parsed with ⟨inner,after,_,clear,rfl,whole,-⟩ | ⟨unopened,-⟩
    · refine ⟨inner,clear,?_⟩
      rw [whole,append_assoc] at start
      rw [← same,trim_bracketed (head_bracketed start)]
    · exact absurd start unopened
  intro closed
  by_cases opened : host.head? = some '['
  · obtain ⟨inner,clear,rfl⟩ := closed opened
    exact ⟨_,_,parseHostport_closed opened clear port,trimmed,numbered⟩
  · exact ⟨_,_,parseHostport_plain filled opened fun none => plain none opened,trimmed,numbered⟩

end Hostport

section Address

variable {tokens : List (List Char)} {host : String} {port : Option Nat}
  {parameters : List (String × Option String)}

def blankParameter : String × Option String := ("",none)

/-- What a URI is read again from its written form for. -/
structure Canonical (host : String) (parameters : List (String × Option String)) : Prop where
  closed : Closed host.toList
  named : blankParameter ∉ parameters

structure Address (host : String) (port : Option Nat) (parameters : List (String × Option String)) : Prop where
  filled : host.toList ≠ []
  trimmed : trim host.toList = host.toList
  small : ∀ n ∈ port, n < 2 ^ 16
  plain : port = none → host.toList.head? ≠ some '[' → ':' ∉ host.toList
  clear : ';' ∉ host.toList
  separate : ∀ parameter ∈ parameters, ';' ∉ parameterText parameter
  again : ∀ parameter ∈ parameters, parseParameter (parameterText parameter) = parameter

theorem parameters_shorter (clear : ∀ token ∈ tokens, ';' ∉ token) :
    utf8Len (((tokens.map parseParameter).map parameterText).flatMap (';' :: ·)) ≤ utf8Len (tokens.flatMap (';' :: ·)) := by
  induction tokens with
  | nil => exact le_refl _
  | cons token tokens ih =>
    obtain ⟨next,others⟩ := forall_mem_cons.mp clear
    have first := (parameter_again next).2.2
    have rest := ih others
    simp only [map_cons,flatMap_cons,utf8Len_append,utf8Len_cons]
    omega

theorem parseAddress_ok (parsed : parseAddress s = .ok (host,port,parameters)) :
    Address host port parameters ∧ utf8Len (addressText host port parameters) ≤ utf8Len s := by
  obtain ⟨⟨hostText,digits⟩,cut,parsed⟩ := bind_eq_ok parsed
  obtain ⟨filled,parsed⟩ := passed_of_ok parsed
  obtain ⟨port,numbered,parsed⟩ := bind_eq_ok parsed
  cases parsed
  have split : splitParameters s = ((splitParameters s).1,(splitParameters s).2) := rfl
  obtain ⟨hostClear,tokensClear,fits⟩ := splitParameters_clear split
  obtain ⟨shorter,plain⟩ := hostport_read cut numbered
  have fewer := parameters_shorter tokensClear
  constructor
  · refine ⟨?_,?_,?_,?_,?_,?_,?_⟩
    · rw [toList_ofList]
      exact filled
    · rw [toList_ofList]
      exact trim_trim hostText
    · intro n held
      rcases parsePort_ok numbered with ⟨-,rfl⟩ | ⟨text,m,-,rfl,number⟩
      · cases held
      · cases held
        exact parseUnsigned_lt number
    · rw [toList_ofList]
      exact plain
    · rw [toList_ofList]
      exact fun member => hostClear ((Str.trim_infix.trans (parseHostport_piece cut)).mem member)
    · intro parameter member
      obtain ⟨token,given,rfl⟩ := mem_map.mp member
      exact (parameter_again (tokensClear token given)).2.1
    · intro parameter member
      obtain ⟨token,given,rfl⟩ := mem_map.mp member
      exact (parameter_again (tokensClear token given)).1
  · rw [addressText,utf8Len_append,utf8Len_append,toList_ofList]
    exact (Nat.add_le_add shorter fewer).trans fits

theorem parameterText_eq_nil (again : parseParameter (parameterText parameter) = parameter) :
    parameterText parameter = [] ↔ parameter = blankParameter := by
  constructor
  · intro blank
    rw [← again,blank]
    rfl
  · rintro rfl
    rfl

/-- An address is read again from its written form exactly if it is canonical. -/
theorem parseAddress_again (address : Address host port parameters) :
    parseAddress (addressText host port parameters) = .ok (host,port,parameters) ↔ Canonical host parameters := by
  have hostport := hostport_again address.filled address.trimmed address.small address.plain
  have clear : ';' ∉ host.toList ++ portText port := by
    rw [mem_append,not_or]
    refine ⟨address.clear,?_⟩
    cases port with
    | none => exact not_mem_nil
    | some n =>
      intro member
      rcases mem_cons.mp member with same | digit
      · cases same
      · exact absurd (isDigit_number n ';' digit) (by decide)
  have cut : splitParameters (addressText host port parameters) =
      (host.toList ++ portText port,(parameters.map parameterText).filter (· ≠ [])) :=
    splitParameters_written clear (forall_mem_map.mpr address.separate)
  unfold parseAddress
  rw [cut]
  constructor
  · intro parsed
    obtain ⟨⟨hostText,digits⟩,split,parsed⟩ := bind_eq_ok parsed
    obtain ⟨-,parsed⟩ := passed_of_ok parsed
    obtain ⟨port',numbered,parsed⟩ := bind_eq_ok parsed
    obtain ⟨hostEq,parsed⟩ := Prod.mk.inj (Except.ok.inj parsed)
    obtain ⟨rfl,parametersEq⟩ := Prod.mk.inj parsed
    constructor
    · refine hostport.mp ⟨hostText,digits,split,?_,numbered⟩
      rw [← hostEq,toList_ofList]
    intro blank
    have count := congrArg List.length parametersEq
    have fewer : ((parameters.map parameterText).filter (· ≠ [])).length < (parameters.map parameterText).length :=
      length_filter_lt_length_iff_exists.mpr ⟨[],mem_map.mpr ⟨_,blank,rfl⟩,by simp⟩
    rw [length_map] at count fewer
    omega
  intro canonical
  obtain ⟨hostText,digits,split,trimmed,numbered⟩ := hostport.mpr canonical.closed
  have kept : (parameters.map parameterText).filter (· ≠ []) = parameters.map parameterText := by
    refine filter_eq_self.mpr (forall_mem_map.mpr fun parameter member => decide_eq_true fun blank => ?_)
    have same := (parameterText_eq_nil (address.again parameter member)).mp blank
    exact canonical.named (same ▸ member)
  have read : (parameters.map parameterText).map parseParameter = parameters := by
    rw [map_map]
    exact (map_congr_left address.again).trans (map_id parameters)
  simp only [split,bind,Except.bind,trimmed,if_neg address.filled,numbered,kept,read,String.ofList_toList]
  rfl

end Address

section Whole

variable {raw : String} {uri : SipUri}

theorem length_le_utf8Len (s : List Char) : s.length ≤ utf8Len s := by
  induction s with
  | nil => exact le_refl _
  | cons c s ih =>
    have := c.utf8Size_pos
    rw [length_cons,utf8Len_cons]
    omega

theorem parseScheme_shorter {scheme : Scheme} (parsed : parseScheme s = .ok scheme) :
    utf8Len (schemeText scheme) ≤ utf8Len s := by
  have sized (t : List Char) (same : eqIgnoreAsciiCase s t = true) : t.length ≤ utf8Len s := by
    have count := congrArg List.length (beq_iff_eq.mp same)
    rw [length_map,length_map] at count
    exact count ▸ length_le_utf8Len s
  unfold parseScheme at parsed
  split_ifs at parsed with sip sips
  · cases parsed
    exact sized "sip".toList sip
  · cases parsed
    exact sized "sips".toList sips

structure Parts (raw : String) (uri : SipUri) (scheme rest : List Char) : Prop where
  short : raw.utf8ByteSize ≤ 2048
  cut : splitOnce [':'] raw.toList = some (scheme,rest)
  named : parseScheme scheme = .ok uri.scheme
  userinfo : parseUserinfo (splitUserinfo rest).1 = .ok (uri.user,uri.password)
  address : parseAddress (splitUserinfo rest).2 = .ok (uri.host,uri.port,uri.parameters)

theorem parse_eq_ok : parse raw = .ok uri ↔ ∃ scheme rest, Parts raw uri scheme rest := by
  constructor
  · intro parsed
    obtain ⟨short,parsed⟩ := passed_of_ok parsed
    split at parsed
    · cases parsed
    rename_i schemeText rest cut
    obtain ⟨scheme,named,parsed⟩ := bind_eq_ok parsed
    obtain ⟨⟨user,password⟩,userinfo,⟨host,port,parameters⟩,address,parsed⟩ := bind_eq_ok₂ parsed
    cases parsed
    exact ⟨schemeText,rest,Nat.not_lt.mp short,cut,named,userinfo,address⟩
  rintro ⟨scheme,rest,short,cut,named,userinfo,address⟩
  rw [parse,if_neg (Nat.not_lt.mpr short),cut]
  simp only [named,userinfo,address]
  rfl

theorem encode_shorter (parsed : parse raw = .ok uri) : uri.encode.utf8ByteSize ≤ raw.utf8ByteSize := by
  obtain ⟨scheme,rest,parts⟩ := parse_eq_ok.mp parsed
  have first := parseScheme_shorter parts.named
  have second := (userinfo_again parts.userinfo).2.1
  have third := (parseAddress_ok parts.address).2
  rw [← String.utf8Len_toList,← String.utf8Len_toList,encode_toList,splitOnce_eq parts.cut]
  simp only [utf8Len_append,utf8Len_cons]
  omega

theorem mem_parameterText (member : c ∈ parameterText parameter) :
    c = '=' ∨ ∃ text ∈ parameter.1 :: parameter.2.toList, c ∈ text.toList := by
  obtain ⟨key,value⟩ := parameter
  cases value with
  | none => exact .inr ⟨key,mem_cons_self,member⟩
  | some value =>
    rcases mem_append.mp member with named | behind
    · exact .inr ⟨key,mem_cons_self,named⟩
    · rcases mem_cons.mp behind with rfl | valued
      · exact .inl rfl
      · exact .inr ⟨value,mem_cons_of_mem _ mem_cons_self,valued⟩

theorem address_clear (parsed : parseAddress s = .ok (uri.host,uri.port,uri.parameters)) (clear : '@' ∉ s) :
    '@' ∉ addressText uri.host uri.port uri.parameters := by
  have pieces := parseAddress_pieces parsed
  intro member
  rcases mem_append.mp member with front | behind
  · rcases mem_append.mp front with host | number
    · exact clear ((pieces _ mem_cons_self).mem host)
    cases port : uri.port with
    | none =>
      rw [port] at number
      cases number
    | some n =>
      rw [port] at number
      rcases mem_cons.mp number with same | digit
      · cases same
      · exact absurd (isDigit_number n '@' digit) (by decide)
  obtain ⟨written,held,member⟩ := mem_flatMap.mp behind
  obtain ⟨parameter,given,rfl⟩ := mem_map.mp held
  rcases mem_cons.mp member with same | member
  · cases same
  · rcases mem_parameterText member with same | ⟨text,part,inside⟩
    · cases same
    · exact clear ((pieces text (mem_cons_of_mem _ (mem_flatMap.mpr ⟨parameter,given,part⟩))).mem inside)

/-- A parsed URI is read again from its encoded form exactly if it is canonical. -/
theorem read_again_iff (parsed : parse raw = .ok uri) :
    parse uri.encode = .ok uri ↔ Canonical uri.host uri.parameters := by
  obtain ⟨scheme,rest,parts⟩ := parse_eq_ok.mp parsed
  obtain ⟨clear,-,again⟩ := userinfo_again parts.userinfo
  obtain ⟨userinfo,address⟩ := again _ (address_clear parts.address clear)
  rw [← parseAddress_again (parseAddress_ok parts.address).1,parse_eq_ok]
  have cut : splitOnce [':'] uri.encode.toList = some (schemeText uri.scheme,
      userinfoText uri.user uri.password ++ addressText uri.host uri.port uri.parameters) := by
    rw [encode_toList]
    exact splitOnce_char (by cases uri.scheme <;> decide)
  constructor
  · rintro ⟨scheme',rest',parts'⟩
    obtain ⟨rfl,rfl⟩ := Prod.mk.inj (Option.some.inj (cut.symm.trans parts'.cut))
    have read := parts'.address
    rwa [address] at read
  intro read
  refine ⟨_,_,(encode_shorter parsed).trans parts.short,cut,?_,userinfo,?_⟩
  · cases uri.scheme <;> decide
  · rw [address]
    exact read

/-- Of the accepted URIs those are read again from their encoded form whose host, if it opens with a bracket,
ends with the first closing one, and that have no empty parameter. -/
theorem encoded_uri_parsed_iff (accepted : parse raw = .ok uri) : parse uri.encode = .ok uri ↔
      (uri.host.toList.head? = some '[' → ∃ inner, ']' ∉ inner ∧ uri.host.toList = inner ++ [']']) ∧
        ("",none) ∉ uri.parameters :=
  (read_again_iff accepted).trans ⟨fun canonical => ⟨canonical.closed,canonical.named⟩,fun ⟨closed,named⟩ => ⟨closed,named⟩⟩

theorem bracketed_uri_parsed : ∃ uri, parse "SIP:@[::1]x;;lr=" = .ok uri ∧ parse uri.encode = .ok uri := by
  have accepted : parse "SIP:@[::1]x;;lr=" = .ok ⟨.sip,none,none,"[::1]",none,[("lr",none)]⟩ := by decide +kernel
  refine ⟨_,accepted,(encoded_uri_parsed_iff accepted).mpr ⟨fun _ => ⟨"[::1".toList,?_,?_⟩,?_⟩⟩
  all_goals decide +kernel

/-- A blank before the bracket is trimmed, and an empty parameter is written as nothing. -/
theorem blanks_not_parsed :
    (∃ uri, parse "sip: [a" = .ok uri ∧ parse uri.encode = .error ⟨.invalidUri,"unterminated IPv6"⟩) ∧
      ∃ uri, parse "sip:a;=" = .ok uri ∧ parse uri.encode ≠ .ok uri :=
  ⟨⟨⟨.sip,none,none,"[a",none,[]⟩,by decide +kernel,by decide +kernel⟩,
    ⟨.sip,none,none,"a",none,[("",none)]⟩,by decide +kernel,by decide +kernel⟩

end Whole

end CheetahSignaling.SipUri
