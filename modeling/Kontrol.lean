import Kontrol.Python.Str
import Kontrol.Python.Int
import Kontrol.Args
import Kontrol.Options
import Kontrol.Prove
import Kontrol.Version
