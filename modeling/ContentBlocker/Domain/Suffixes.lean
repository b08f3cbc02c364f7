/-!
# Public suffixes

The names below which a wildcard domain is looked for.  A domain that ends in `.*` stands for the
domain below each of these, in this order.
-/

set_option autoImplicit false
namespace ContentBlocker.Domain

/-- The suffixes that a wildcard stands for, in the order in which it is expanded. -/
def suffixes : List String :=
  ["com", "org", "net", "edu", "gov", "info", "biz", "io", "co", "me", "tv", "ru", "de", "uk",
   "co.uk", "org.uk", "fr", "it", "es", "nl", "be", "ch", "at", "pl", "cz", "sk", "hu", "ro",
   "bg", "gr", "pt", "se", "no", "dk", "fi", "ie", "is", "ee", "lv", "lt", "ua", "by", "kz",
   "md", "rs", "hr", "si", "ba", "mk", "al", "tr", "il", "ae", "sa", "ir", "in", "co.in", "pk",
   "bd", "lk", "np", "cn", "com.cn", "hk", "com.hk", "tw", "com.tw", "jp", "co.jp", "kr",
   "co.kr", "sg", "com.sg", "my", "com.my", "th", "co.th", "vn", "com.vn", "ph", "com.ph", "id",
   "co.id", "au", "com.au", "nz", "co.nz", "ca", "us", "mx", "com.mx", "br", "com.br", "ar",
   "com.ar", "cl", "com.co", "pe", "com.pe", "ve", "com.ve", "uy", "com.uy", "ec", "bo", "py",
   "za", "co.za", "ng", "com.ng", "eg", "com.eg", "ma", "tn", "ke", "co.ke", "gh", "xyz",
   "online", "site", "top", "club", "app", "dev", "shop", "store", "live", "news", "blog",
   "tech", "pro", "mobi", "name", "asia", "eu", "cc", "ws", "fm", "am", "to", "ly", "gg"]

/-- What a wildcard domain ends in. -/
def wildcard : String :=
  ".*"

end ContentBlocker.Domain
