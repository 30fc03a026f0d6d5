import ResourceAudit.Culture.Locale
import ResourceAudit.Markup.Registry
import ResourceAudit.Platform

/-!
# The standard platform

The locales and codecs at hand. A document with a fault is said to be wrong where it ends, which
is so if it is cut short.
-/

namespace ResourceAudit.Platform

def standard : Platform where
  locales := Culture.standard
  codecs := Markup.Registry.codec
  faultAt := Markup.Source.finish Markup.Registry.codec

end ResourceAudit.Platform
