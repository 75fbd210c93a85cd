import FerroCP.Native
import FerroCP.Exception
import FerroCP.Engine
import FerroCP.Ownership
import FerroCP.Stoi
import FerroCP.Utility
import FerroCP.Library
import FerroCP.Client
