import Wlan.NetworkManager.Job

/-!
# How a profile is secured

A profile reaches the tool as an argument list, in which names and values alternate after the two
words that say what to do. Whether the network will be joined as an open one can be told from the
names alone: there is a security setting among them or there is not. So what is said here about a
profile is said about its argument list, read in the way of the tool (`settings`). A value that
looks like the name of a setting is not taken for one.

A key is passed on as soon as there is key management, and the security asked for alone decides
that, except for the two kinds which the tool does not know.
-/

set_option autoImplicit false

namespace Wlan.NetworkManager

/-! ## Argument lists -/

/-- Names with the values that follow them. -/
def pairs : List String → List (String × String)
  | name :: value :: rest => (name, value) :: pairs rest
  | _ => []

/-- The settings in an argument list that adds a profile. -/
def settings (args : List String) : List (String × String) :=
  pairs (args.drop 2)

/-- The settings that a key can be the value of. -/
def keyFields : List String := ["wifi-sec.psk", "wifi-sec.wep-key0"]

/-- The profile has key management, and the key is the value of exactly one setting for keys. -/
structure IsSecuredBy (key : String) (args : List String) : Prop where
  managed : ∃ management, ("wifi-sec.key-mgmt", management) ∈ settings args
  carried : ∃ field, (settings args).filter (·.1 ∈ keyFields) = [(field, key)]

/-- The profile has no security setting. -/
def IsOpen (args : List String) : Prop :=
  ∀ setting ∈ settings args, ¬ "wifi-sec".toList <+: setting.1.toList

/-! ## Profiles -/

/-- What a profile says apart from its security. -/
def Profile.commonSettings (p : Profile) : List (String × String) :=
  [("type", "wifi"), ("con-name", p.name), ("ifname", p.interface), ("ssid", p.ssid)]

theorem settings_arguments (p : Profile) :
    settings p.arguments = p.commonSettings ++ pairs p.securitySettings := rfl

theorem Profile.isOpen_of_keyManagement?_eq_none {p : Profile}
    (h : keyManagement? p.security p.key.isSome = none) : IsOpen p.arguments := by
  have hnothing : p.securitySettings = [] := by rw [securitySettings, h]
  intro setting hsetting
  have hsettings : settings p.arguments = p.commonSettings := by
    rw [settings_arguments, hnothing]
    rfl
  have hname : setting.1 ∈ p.commonSettings.map Prod.fst :=
    List.mem_map_of_mem (hsettings ▸ hsetting)
  have hclean : ∀ name ∈ ["type", "con-name", "ifname", "ssid"],
      ¬ "wifi-sec".toList <+: name.toList := by decide
  exact hclean setting.1 hname

theorem Profile.isSecuredBy_of_keyManagement?_eq_some {p : Profile} {key management : String}
    (hkey : p.key = some key) (h : keyManagement? p.security true = some management) :
    IsSecuredBy key p.arguments := by
  have hsettings : ∃ more, settings p.arguments = p.commonSettings
      ++ (("wifi-sec.key-mgmt", management) :: (keySetting p.security, key) :: more)
      ∧ ∀ s ∈ more, s.1 = "wifi-sec.pmf" := by
    rw [settings_arguments, securitySettings, hkey, Option.isSome_some, h]
    by_cases hwep : p.security = .wep
    · exact ⟨[], by simp [hwep, pairs], by simp⟩
    · exact ⟨[("wifi-sec.pmf", frameProtectionNumber p.protection)], by simp [hwep, pairs], by simp⟩
  obtain ⟨more, hsettings, hmore⟩ := hsettings
  constructor
  · exact ⟨management, by simp [hsettings]⟩
  · have hcommon : p.commonSettings.filter (·.1 ∈ keyFields) = [] := by
      simp [commonSettings, keyFields]
    have hmanagement : "wifi-sec.key-mgmt" ∉ keyFields := by simp [keyFields]
    have hfield : keySetting p.security ∈ keyFields := by
      unfold keySetting keyFields
      split <;> simp
    have hrest : more.filter (·.1 ∈ keyFields) = [] := by
      rw [List.filter_eq_nil_iff]
      intro s hs
      simp [hmore s hs, keyFields]
    refine ⟨keySetting p.security, ?_⟩
    rw [hsettings, List.filter_append, hcommon, List.nil_append]
    simp only [List.filter_cons, hmanagement, hfield, hrest, decide_true, decide_false, if_true,
      Bool.false_eq_true, if_false]

/-- Every kind of security but one manages a key. -/
theorem keyManagement?_true_eq_none_iff {security : Security} :
    keyManagement? security true = none ↔ security = .unsecured := by
  cases security <;> simp [keyManagement?]

/-! ## Credentials -/

/-- What a profile owes to a key, or to the lack of one. A key comes with key management unless no
security was asked for; without a key there is no security setting. -/
structure Honours (key : Option String) (security : Security) (args : List String) : Prop where
  secured : ∀ k, key = some k → security ≠ .unsecured → IsSecuredBy k args
  opened : key = none → IsOpen args

/-- Without a key, or without security, there is no security setting. -/
theorem isOpen_profileFor {c : Credentials} (h : c.key = none ∨ c.security = .unsecured)
    (interface : String) : IsOpen (profileFor interface c.association).arguments := by
  refine Profile.isOpen_of_keyManagement?_eq_none ?_
  have hsecurity : c.association.security = .unsecured := by
    rcases h with hkey | hsecurity
    · simp [Credentials.association, hkey]
    · simp [Credentials.association, hsecurity]
  simp [profileFor, hsecurity, keyManagement?]

theorem honours_profileFor (c : Credentials) (interface : String) :
    Honours c.key c.security (profileFor interface c.association).arguments where
  secured := by
    intro key hkey hsecurity
    have hsame : c.association.security = c.security := by simp [Credentials.association, hkey]
    cases hmanagement : keyManagement? c.security true with
    | none => exact absurd (keyManagement?_true_eq_none_iff.mp hmanagement) hsecurity
    | some management =>
      have hmanaged : keyManagement? c.association.security true = some management :=
        hsame ▸ hmanagement
      exact Profile.isSecuredBy_of_keyManagement?_eq_some (p := profileFor interface c.association)
        hkey hmanaged
  opened := fun hkey => isOpen_profileFor (Or.inl hkey) interface

end Wlan.NetworkManager
